import RiscvDbg.Predictor.Steps

/-!
# The command one access executes

A command runs when it is written, or again when an armed data or program-buffer word is accessed.

* `DMPredictor.command` — the command an access executes, if any; `DMPredictor.beforeCommand` — the
  abstract-command registers the access leaves for it.
* `apply_ac` — every access other than a `dmcontrol` write is `beforeCommand` followed by that
  command.
* `executeCommand_shadowRegs`, `executeCommand_read` — what one command leaves in the shadow, and
  what the predictor claims about `data0` after a read.
-/

set_option autoImplicit false

namespace RiscvDbg

/-! ## One command -/

/-- The command moves a register, to it (`write`) or from it. -/
def Command.moves (write : Bool) (value : Nat) : Bool :=
  Command.accepted value && Command.transfer value && Command.write value == write

/-- The command writes register `r`. -/
def Command.writesReg (r value : Nat) : Bool := Command.moves true value && Command.regno value == r

/-- The command reads register `r`. -/
def Command.readsReg (r value : Nat) : Bool := Command.moves false value && Command.regno value == r

namespace AbstractCommand

variable (ac : AbstractCommand)

/-- What no command changes. -/
def SameStaged (ac ac' : AbstractCommand) : Prop :=
  ac'.abstractauto = ac.abstractauto ∧ ac'.stagedData0 = ac.stagedData0 ∧
    ac'.lastCommand = ac.lastCommand

theorem transferHi_shadowRegs (write : Bool) (regno aarsize : Nat) :
    (ac.transferHi write regno aarsize).shadowRegs = ac.shadowRegs ∧
      SameStaged ac (ac.transferHi write regno aarsize) := by
  unfold transferHi
  repeat' split
  all_goals exact ⟨rfl, rfl, rfl, rfl⟩

theorem transferLo_staged (write : Bool) (regno : Nat) :
    SameStaged ac (ac.transferLo write regno) := by
  unfold transferLo
  repeat' split
  all_goals exact ⟨rfl, rfl, rfl⟩

theorem transferLo_shadowRegs (write : Bool) (regno : Nat) :
    (ac.transferLo write regno).shadowRegs =
      if write then ac.shadowRegs.set regno ac.stagedData0 else ac.shadowRegs := by
  unfold transferLo
  repeat' split
  all_goals rfl

theorem executeCommand_of_not_accepted {value : Nat} (h : Command.accepted value = false) :
    ac.executeCommand value = ac := by
  have : (Command.cmdtype value != 0 || decide (Command.aarsize value > 3)) = true := by
    simp only [Command.accepted, Bool.and_eq_false_iff, beq_eq_false_iff_ne,
      decide_eq_false_iff_not, Nat.not_le] at h
    simpa using h
  rw [executeCommand, if_pos this]

theorem executeCommand_of_accepted {value : Nat} (h : Command.accepted value = true) :
    ac.executeCommand value =
      let ac' :=
        if Command.transfer value then
          (ac.transferHi (Command.write value) (Command.regno value)
            (Command.aarsize value)).transferLo (Command.write value) (Command.regno value)
        else ac
      if Command.postexec value then ac'.clearShadow else ac' := by
  have : ¬ (Command.cmdtype value != 0 || decide (Command.aarsize value > 3)) = true := by
    simp only [Command.accepted, Bool.and_eq_true, beq_iff_eq, decide_eq_true_iff] at h
    simp [h.1, h.2]
  rw [executeCommand, if_neg this]

theorem executeCommand_staged (value : Nat) : SameStaged ac (ac.executeCommand value) := by
  cases h : Command.accepted value with
  | false => rw [ac.executeCommand_of_not_accepted h]; exact ⟨rfl, rfl, rfl⟩
  | true =>
    rw [ac.executeCommand_of_accepted h]
    obtain ⟨-, h₁, h₂, h₃⟩ := ac.transferHi_shadowRegs (Command.write value) (Command.regno value)
      (Command.aarsize value)
    obtain ⟨h₄, h₅, h₆⟩ := transferLo_staged
      (ac.transferHi (Command.write value) (Command.regno value) (Command.aarsize value))
      (Command.write value) (Command.regno value)
    dsimp only
    repeat' split
    all_goals first
      | exact ⟨rfl, rfl, rfl⟩
      | exact ⟨h₄.trans h₁, h₅.trans h₂, h₆.trans h₃⟩

/-- **The shadow after a command**: empty after `postexec`, else updated by a register write only. -/
theorem executeCommand_shadowRegs (value : Nat) :
    (ac.executeCommand value).shadowRegs =
      if Command.accepted value && Command.postexec value then .empty
      else if Command.moves true value then
        ac.shadowRegs.set (Command.regno value) ac.stagedData0
      else ac.shadowRegs := by
  cases h : Command.accepted value with
  | false => rw [ac.executeCommand_of_not_accepted h]; simp [Command.moves, h]
  | true =>
    rw [ac.executeCommand_of_accepted h]
    obtain ⟨hregs, -, hstaged, -⟩ := ac.transferHi_shadowRegs (Command.write value)
      (Command.regno value) (Command.aarsize value)
    cases hp : Command.postexec value with
    | true => rfl
    | false =>
      cases ht : Command.transfer value with
      | false => simp [Command.moves, ht]
      | true => simp [Command.moves, h, ht, transferLo_shadowRegs, hregs, hstaged]

/-- What a register read claims: `x0` is 0, any other register is what the shadow holds. -/
theorem transferLo_read_eq (r : Nat) :
    ac.transferLo false r =
      if r = GPR_X0_REGNO then { ac with data0PendingValid := true, data0PendingValue := 0 }
      else if ac.shadowRegs.contains r && readsBackAsWritten r then
        { ac with data0PendingValid := true, data0PendingValue := ac.shadowRegs.getD r 0 }
      else { ac with data0PendingValid := false } := by
  rw [transferLo, if_neg Bool.false_ne_true]
  by_cases hx : r = GPR_X0_REGNO
  · rw [if_pos (beq_iff_eq.mpr hx), if_pos hx]
  · rw [if_neg (by simpa using hx), if_neg hx, Dict.contains, Dict.getD]
    cases ac.shadowRegs.get? r with
    | none => rfl
    | some v => cases readsBackAsWritten r <;> rfl

theorem transferLo_read (r : Nat) :
    (ac.transferLo false r).data0PendingValid =
        (r == GPR_X0_REGNO || (ac.shadowRegs.contains r && readsBackAsWritten r)) ∧
      ((ac.transferLo false r).data0PendingValid = true →
        (ac.transferLo false r).data0PendingValue =
          if r = GPR_X0_REGNO then 0 else ac.shadowRegs.getD r 0) := by
  rw [transferLo_read_eq]
  by_cases hx : r = GPR_X0_REGNO
  · rw [if_pos hx, if_pos hx]
    exact ⟨by simp [hx], fun _ => rfl⟩
  · rw [if_neg hx, if_neg hx, beq_eq_false_iff_ne.mpr hx, Bool.false_or]
    cases ac.shadowRegs.contains r && readsBackAsWritten r with
    | true => exact ⟨rfl, fun _ => rfl⟩
    | false => exact ⟨rfl, nofun⟩

/-- **The claim after a register read.** -/
theorem executeCommand_read {value : Nat} (h : Command.moves false value = true) :
    let ac' := ac.executeCommand value
    let r := Command.regno value
    (ac'.data0PendingValid =
        (r == GPR_X0_REGNO || (ac.shadowRegs.contains r && readsBackAsWritten r))) ∧
      (ac'.data0PendingValid = true →
        ac'.data0PendingValue = if r = GPR_X0_REGNO then 0 else ac.shadowRegs.getD r 0) := by
  simp only [Command.moves, Bool.and_eq_true, beq_iff_eq] at h
  obtain ⟨⟨hacc, ht⟩, hw⟩ := h
  have hread := transferLo_read
    (ac.transferHi false (Command.regno value) (Command.aarsize value)) (Command.regno value)
  rw [(ac.transferHi_shadowRegs false (Command.regno value) (Command.aarsize value)).1] at hread
  intro ac' r
  have hac : ac' = ac.executeCommand value := rfl
  rw [ac.executeCommand_of_accepted hacc, ht, hw, if_pos rfl] at hac
  rw [hac]
  dsimp only
  -- clearing the shadow afterwards does not change what has been claimed
  split <;> exact hread

end AbstractCommand

/-! ## One access -/

namespace DMPredictor

/-- The command an access executes, if any. -/
def command (s : DMPredictor) : Dmi → Option Nat
  | .write addr value =>
    if s.observedCmdbusy && guardedWhileBusy addr then none
    else if addr = ADDR_COMMAND then some (value &&& MASK32)
    else if AbstractCommand.implemented s.cfg addr && s.ac.autoexecArmed s.cfg s.observedCmdbusy addr then
      some s.ac.lastCommand
    else none
  | .read addr =>
    if AbstractCommand.implemented s.cfg addr && s.ac.autoexecArmed s.cfg s.observedCmdbusy addr then
      some s.ac.lastCommand
    else none

/-- The abstract-command registers an access leaves for the command it executes. -/
def beforeCommand (s : DMPredictor) : Dmi → AbstractCommand
  | .write addr value =>
    let value := value &&& MASK32
    if s.observedCmdbusy && guardedWhileBusy addr then s.ac
    else if isData addr && addr - ADDR_DATA0 < s.cfg.datacount then
      s.ac.storeData (addr - ADDR_DATA0) value
    else if isProgbuf addr && addr - ADDR_PROGBUF0 < s.cfg.progbufsize then
      { s.ac with progbufQ := s.ac.progbufQ.set (addr - ADDR_PROGBUF0) value }
    else if addr = ADDR_COMMAND then { s.ac with lastCommand := value }
    else if addr = ADDR_ABSTRACTAUTO then { s.ac with abstractauto := value }
    else s.ac
  | .read _ => s.ac

variable {s : DMPredictor}

theorem storeData_kept (ac : AbstractCommand) (i value : Nat) :
    (ac.storeData i value).abstractauto = ac.abstractauto ∧
      (ac.storeData i value).lastCommand = ac.lastCommand ∧
      (ac.storeData i value).shadowRegs = ac.shadowRegs := by
  unfold AbstractCommand.storeData
  split <;> exact ⟨rfl, rfl, rfl⟩

/-- Nothing but a command changes the shadow. -/
theorem beforeCommand_shadowRegs (d : Dmi) : (s.beforeCommand d).shadowRegs = s.ac.shadowRegs := by
  cases d with
  | read addr => rfl
  | write addr value =>
    unfold beforeCommand
    dsimp only
    repeat' split
    all_goals first
      | rfl
      | exact (storeData_kept _ _ _).2.2

theorem autoexec_eq (ac ac' : AbstractCommand) (hauto : ac'.abstractauto = ac.abstractauto)
    (hlast : ac'.lastCommand = ac.lastCommand) (addr : Nat) (busy : Bool) (cfg : DeclaredConfig) :
    ac'.autoexec cfg busy addr =
      if ac.autoexecArmed cfg busy addr then ac'.executeCommand ac.lastCommand else ac' := by
  unfold AbstractCommand.autoexec AbstractCommand.autoexecArmed
  rw [hauto, hlast]

theorem not_isProgbuf_of_isData {addr : Nat} (h : isData addr = true) : isProgbuf addr = false := by
  rw [isData_iff] at h
  rw [← Bool.not_eq_true, isProgbuf_iff]
  omega

/-- A write of a data or program-buffer word that is not refused. -/
theorem writeBuffer_eq {addr : Nat} (hbuf : (isData addr || isProgbuf addr) = true)
    (hfree : (s.observedCmdbusy && guardedWhileBusy addr) = false) (value : Nat) :
    s.ac.writeBuffer s.cfg s.observedCmdbusy addr (value &&& MASK32) =
      (s.command (.write addr value)).elim (s.beforeCommand (.write addr value))
        (s.beforeCommand (.write addr value)).executeCommand := by
  have hne : addr ≠ ADDR_COMMAND ∧ addr ≠ ADDR_ABSTRACTAUTO := by
    rw [Bool.or_eq_true, isData_iff, isProgbuf_iff] at hbuf
    simp only [ADDR_COMMAND, ADDR_ABSTRACTAUTO]
    omega
  unfold AbstractCommand.writeBuffer command beforeCommand AbstractCommand.implemented
  simp only [hfree, if_neg hne.1, if_neg hne.2]
  cases hd : isData addr with
  | true =>
    have hp := not_isProgbuf_of_isData hd
    by_cases hlt : addr - ADDR_DATA0 < s.cfg.datacount
    · obtain ⟨hauto, hlast, -⟩ := storeData_kept s.ac (addr - ADDR_DATA0) (value &&& MASK32)
      rw [if_pos rfl, if_neg (by omega), autoexec_eq _ _ hauto hlast]
      cases s.ac.autoexecArmed s.cfg s.observedCmdbusy addr <;> simp [hlt]
    · have hge : s.cfg.datacount ≤ addr - ADDR_DATA0 := by omega
      simp [hlt, hge, hp]
  | false =>
    have hp : isProgbuf addr = true := by rwa [hd, Bool.false_or] at hbuf
    by_cases hlt : addr - ADDR_PROGBUF0 < s.cfg.progbufsize
    · rw [if_neg (by simp), if_neg (by omega), autoexec_eq s.ac
        { s.ac with progbufQ := s.ac.progbufQ.set (addr - ADDR_PROGBUF0) (value &&& MASK32) } rfl rfl]
      cases s.ac.autoexecArmed s.cfg s.observedCmdbusy addr <;> simp [hlt, hp]
    · have hge : s.cfg.progbufsize ≤ addr - ADDR_PROGBUF0 := by omega
      simp [hge, hlt]

/-- **One access** other than a `dmcontrol` write. -/
theorem apply_ac {d : Dmi} (hd : ∀ value, d ≠ .write DMCONTROL.address value) :
    (d.apply s).ac = (s.command d).elim (s.beforeCommand d) (s.beforeCommand d).executeCommand := by
  cases d with
  | read addr =>
    rw [Dmi.apply, observeRead_ac, AbstractCommand.observeRead, command, beforeCommand,
      AbstractCommand.autoexec]
    cases AbstractCommand.implemented s.cfg addr <;>
      cases s.ac.autoexecArmed s.cfg s.observedCmdbusy addr <;> rfl
  | write addr value =>
    have hdm : addr ≠ DMCONTROL.address := by
      rintro rfl
      exact hd value rfl
    rw [Dmi.apply, onWrite_ac]
    cases hfree : s.observedCmdbusy && guardedWhileBusy addr with
    | true => simp [command, beforeCommand, hfree]
    | false =>
      rw [if_neg (by simp)]
      cases hbuf : isData addr || isProgbuf addr with
      | true =>
        rw [if_pos rfl]
        exact writeBuffer_eq hbuf hfree value
      | false =>
        have hnone := hbuf
        rw [Bool.or_eq_false_iff] at hnone
        rw [if_neg (by simp), if_neg hdm]
        by_cases hc : addr = ADDR_COMMAND
        · simp only [command, beforeCommand, hfree, hnone.1, hnone.2, if_pos hc, Bool.false_and,
            Bool.false_eq_true, if_false, Option.elim_some, AbstractCommand.writeCommand]
        · simp [command, beforeCommand, hfree, hc, hnone.1, hnone.2, AbstractCommand.implemented]

end DMPredictor

end RiscvDbg

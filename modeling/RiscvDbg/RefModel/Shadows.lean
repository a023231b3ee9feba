import RiscvDbg.Predictor.SystemBus
import RiscvDbg.RefModel.RunControl

/-!
# The shadows of the two reference models

`AbstractCommandS.abs` and `SystemBusS.abs` read the SystemVerilog state as the Python one, and every
operation on the abstract-command registers and on the system-bus registers commutes with them.
-/

set_option autoImplicit false

namespace RiscvDbg

/-! ## Fields of words and addresses -/

theorem toNat_extractLsb' {n : Nat} (value : BitVec n) (lsb width : Nat) :
    (value.extractLsb' lsb width).toNat = value.toNat >>> lsb &&& Words.ones width := by
  rw [BitVec.extractLsb'_toNat, Words.and_ones]

theorem toNat_regno (value : BitVec 32) :
    (value.extractLsb' 0 16).toNat = Command.regno value.toNat := toNat_extractLsb' value 0 16

theorem toNat_aarsize (value : BitVec 32) :
    (value.extractLsb' 20 3).toNat = Command.aarsize value.toNat := toNat_extractLsb' value 20 3

theorem toNat_cmdtype (value : BitVec 32) :
    (value.extractLsb' 24 8).toNat = Command.cmdtype value.toNat := toNat_extractLsb' value 24 8

theorem beq_toNat {n : Nat} (a b : BitVec n) : (a == b) = (a.toNat == b.toNat) := by
  rw [Bool.eq_iff_iff, beq_iff_eq, beq_iff_eq, BitVec.toNat_inj]

theorem isDataS_eq (addr : BitVec 7) : isDataS addr = isData addr.toNat := by
  unfold isDataS isData
  simp only [BitVec.le_def]
  rfl

theorem isProgbufS_eq (addr : BitVec 7) : isProgbufS addr = isProgbuf addr.toNat := by
  unfold isProgbufS isProgbuf
  simp only [BitVec.le_def]
  rfl

theorem readsBackAsWrittenS_eq (regno : BitVec 16) :
    readsBackAsWrittenS regno = readsBackAsWritten regno.toNat := by
  unfold readsBackAsWrittenS readsBackAsWritten
  simp only [BitVec.le_def]
  rfl

theorem beq_x0 (regno : BitVec 16) :
    (regno == BitVec.ofNat 16 GPR_X0_REGNO) = (regno.toNat == GPR_X0_REGNO) := beq_toNat _ _

/-! ## Abstract commands -/

namespace AbstractCommandS

variable (ac : AbstractCommandS)

theorem transferHi_abs (wr : Bool) (regno : BitVec 16) (aarsize : BitVec 3) :
    (ac.transferHi wr regno aarsize).abs = ac.abs.transferHi wr regno.toNat aarsize.toNat := by
  unfold transferHi AbstractCommand.transferHi
  rw [show (aarsize == 3#3) = (aarsize.toNat == 3) from beq_toNat _ _, beq_x0, readsBackAsWrittenS_eq]
  have hget : ac.abs.shadowHi.get? regno.toNat = (ac.shadowHi.get? regno).map BitVec.toNat :=
    Dict.get?_toNat _ _
  rw [hget]
  split
  · split
    · unfold abs
      rw [Dict.toNat_set]
    · split
      · unfold abs
        rw [List.map_set]
        rfl
      · cases ac.shadowHi.get? regno with
        | none => rfl
        | some v =>
          cases readsBackAsWritten regno.toNat with
          | false => rfl
          | true =>
            unfold abs
            dsimp only [Option.map_some]
            rw [List.map_set]
  · split
    · unfold abs
      rw [Dict.toNat_pop]
    · rfl

theorem transferLo_abs (wr : Bool) (regno : BitVec 16) :
    (ac.transferLo wr regno).abs = ac.abs.transferLo wr regno.toNat := by
  unfold transferLo AbstractCommand.transferLo
  rw [beq_x0, readsBackAsWrittenS_eq]
  have hget : ac.abs.shadowRegs.get? regno.toNat = (ac.shadowRegs.get? regno).map BitVec.toNat :=
    Dict.get?_toNat _ _
  rw [hget]
  split
  · unfold abs
    rw [Dict.toNat_set]
  · split
    · rfl
    · cases ac.shadowRegs.get? regno with
      | none => rfl
      | some v => cases readsBackAsWritten regno.toNat <;> rfl

theorem executeCommand_abs (value : BitVec 32) :
    (ac.executeCommand value).abs = ac.abs.executeCommand value.toNat := by
  have hreject : (value.extractLsb' 24 8 != 0#8 || decide (value.extractLsb' 20 3 > 3#3)) =
      (Command.cmdtype value.toNat != 0 || decide (Command.aarsize value.toNat > 3)) := by
    rw [← toNat_cmdtype, ← toNat_aarsize, bne, bne, beq_toNat]
    rfl
  unfold executeCommand AbstractCommand.executeCommand Command.postexec Command.transfer Command.write
  dsimp only
  rw [hreject, getLsbD_eq, getLsbD_eq, getLsbD_eq]
  split
  · rfl
  · have hac : (if value.toNat.testBit 17 then
          (ac.transferHi (value.toNat.testBit 16) (value.extractLsb' 0 16)
            (value.extractLsb' 20 3)).transferLo (value.toNat.testBit 16) (value.extractLsb' 0 16)
        else ac).abs =
        if value.toNat.testBit 17 then
          (ac.abs.transferHi (value.toNat.testBit 16) (Command.regno value.toNat)
            (Command.aarsize value.toNat)).transferLo (value.toNat.testBit 16) (Command.regno value.toNat)
        else ac.abs := by
      split
      · rw [transferLo_abs, transferHi_abs, toNat_regno, toNat_aarsize]
      · rfl
    rw [← hac]
    split
    · unfold abs AbstractCommand.clearShadow
      rw [Dict.toNat_empty]
    · rfl

/-- The arming bit of a data or program-buffer word. -/
theorem autoexecArmed_abs (cfg : DmCfg) (busy : Bool) {addr : BitVec 7}
    (h : (isData addr.toNat || isProgbuf addr.toNat) = true) :
    ac.autoexecArmed cfg busy addr = ac.abs.autoexecArmed cfg.declared busy addr.toNat := by
  unfold autoexecArmed AbstractCommand.autoexecArmed
  rw [isDataS_eq, getLsbD_eq, getLsbD_eq]
  cases hd : isData addr.toNat with
  | true => rfl
  | false =>
    rw [hd, Bool.false_or, isProgbuf_iff] at h
    have hindex : 16 + progbufIndex addr = 16 + addr.toNat - ADDR_PROGBUF0 := by
      show 16 + (addr.toNat - 32) = 16 + addr.toNat - 32
      omega
    rw [hindex]
    rfl

theorem autoexec_abs (cfg : DmCfg) (busy : Bool) {addr : BitVec 7}
    (h : (isData addr.toNat || isProgbuf addr.toNat) = true) :
    (ac.autoexec cfg busy addr).abs = ac.abs.autoexec cfg.declared busy addr.toNat := by
  unfold autoexec AbstractCommand.autoexec
  rw [autoexecArmed_abs ac cfg busy h]
  split
  · exact executeCommand_abs _ _
  · rfl

theorem writeBuffer_abs (cfg : DmCfg) (busy : Bool) {addr : BitVec 7}
    (h : (isData addr.toNat || isProgbuf addr.toNat) = true) (value : BitVec 32) :
    (ac.writeBuffer cfg busy addr value).abs =
      ac.abs.writeBuffer cfg.declared busy addr.toNat value.toNat := by
  unfold writeBuffer AbstractCommand.writeBuffer AbstractCommand.storeData
  rw [isDataS_eq]
  show (if isData addr.toNat then
      if cfg.datacount.toNat ≤ addr.toNat - ADDR_DATA0 then ac else _
    else if cfg.progbufsize.toNat ≤ addr.toNat - ADDR_PROGBUF0 then ac else _).abs =
    if isData addr.toNat then
      if cfg.datacount.toNat ≤ addr.toNat - ADDR_DATA0 then ac.abs else _
    else if cfg.progbufsize.toNat ≤ addr.toNat - ADDR_PROGBUF0 then ac.abs else _
  split
  · split
    · rfl
    · rw [autoexec_abs _ cfg busy h]
      congr 1
      show (if addr.toNat - ADDR_DATA0 == 0 then _ else _ : AbstractCommandS).abs =
        if addr.toNat - ADDR_DATA0 == 0 then _ else _
      split
      · rfl
      · unfold abs
        dsimp only
        rw [List.map_set, apply_ite BitVec.toNat]
        rfl
  · split
    · rfl
    · rw [autoexec_abs _ cfg busy h]
      congr 1
      unfold abs
      rw [List.map_set]
      rfl

theorem observeRead_abs (cfg : DmCfg) (busy : Bool) (addr : BitVec 7) :
    (ac.observeRead cfg busy addr).abs = ac.abs.observeRead cfg.declared busy addr.toNat := by
  unfold observeRead AbstractCommand.observeRead AbstractCommand.implemented
  rw [isDataS_eq, isProgbufS_eq]
  show (if (isData addr.toNat && decide (addr.toNat - ADDR_DATA0 < cfg.datacount.toNat))
      || (isProgbuf addr.toNat && decide (addr.toNat - ADDR_PROGBUF0 < cfg.progbufsize.toNat))
    then _ else ac).abs =
    if (isData addr.toNat && decide (addr.toNat - ADDR_DATA0 < cfg.datacount.toNat))
      || (isProgbuf addr.toNat && decide (addr.toNat - ADDR_PROGBUF0 < cfg.progbufsize.toNat))
    then _ else ac.abs
  split
  · rename_i himpl
    refine autoexec_abs ac cfg busy ?_
    rw [Bool.or_eq_true, Bool.and_eq_true, Bool.and_eq_true] at himpl
    rw [Bool.or_eq_true]
    exact himpl.imp And.left And.left
  · rfl

theorem writeCommand_abs (value : BitVec 32) :
    (ac.writeCommand value).abs = ac.abs.writeCommand value.toNat :=
  executeCommand_abs { ac with lastCommand := value } value

end AbstractCommandS

/-! ## System Bus Access -/

def SystemBusS.abs (sb : SystemBusS) : SystemBus where
  sbreadonaddr := sb.sbreadonaddr
  sbaccess := sb.sbaccess.toNat
  sbautoincrement := sb.sbautoincrement
  sbreadondata := sb.sbreadondata
  shadowMem := sb.shadowMem.toNat
  sbaddress0 := sb.sbaddress0.toNat
  sbaddress1 := sb.sbaddress1.toNat
  sbcsReadOnAddrArmed := sb.sbcsReadOnAddrArmed
  sbdata0PendingValid := sb.sbdata0PendingValid
  sbdata0PendingValue := sb.sbdata0PendingValue.toNat
  sbdata1 := sb.sbdata1.toNat
  sbdata1Known := sb.sbdata1Known

namespace SystemBusS

variable (cfg : DmCfg) (sb : SystemBusS)

theorem writeSbcs_abs (value : BitVec 32) :
    (sb.writeSbcs cfg value).abs = sb.abs.writeSbcs cfg.declared value.toNat := by
  unfold writeSbcs SystemBus.writeSbcs abs
  simp only [getLsbD_eq, apply_ite BitVec.toNat, toNat_extractLsb']
  rfl

/-- The 64-bit sum of the addresses, read in halves. -/
theorem sum_halves (hi lo : BitVec 32) (n : Nat) (hn : n < 64) :
    let a : BitVec 64 := (hi ++ lo) + (1#64 <<< n)
    let b := (hi.toNat <<< 32 ||| lo.toNat) + 1 <<< n
    (a.extractLsb' 0 32).toNat = b &&& MASK32 ∧ (a.extractLsb' 32 32).toNat = (b >>> 32) &&& MASK32 := by
  intro a b
  have hpow : (1#64 <<< n).toNat = 2 ^ n := by
    rw [BitVec.toNat_shiftLeft, BitVec.toNat_ofNat, Nat.one_mod, Nat.one_shiftLeft,
      Nat.mod_eq_of_lt (Nat.pow_lt_pow_right (by decide) hn)]
  have ha : a.toNat = b % 2 ^ 64 := by
    show ((hi ++ lo) + (1#64 <<< n)).toNat = _
    rw [BitVec.toNat_add, hpow, BitVec.toNat_append, ← Nat.one_shiftLeft]
  rw [BitVec.extractLsb'_toNat, BitVec.extractLsb'_toNat, ha, and_MASK32, and_MASK32,
    Nat.shiftRight_eq_div_pow, Nat.shiftRight_eq_div_pow, Nat.shiftRight_eq_div_pow]
  constructor
  · rw [Nat.pow_zero, Nat.div_one]
    exact Nat.mod_mod_of_dvd b (by decide)
  · omega

theorem sbaAutoincrement_abs :
    (sb.sbaAutoincrement cfg).abs = sb.abs.sbaAutoincrement cfg.declared := by
  have hlt : sb.sbaccess.toNat < 64 := by
    have := sb.sbaccess.isLt
    omega
  obtain ⟨hlo, hhi⟩ := sum_halves sb.sbaddress1 sb.sbaddress0 sb.sbaccess.toNat hlt
  unfold sbaAutoincrement SystemBus.sbaAutoincrement
  show (if !sb.sbautoincrement then sb else _ : SystemBusS).abs = if !sb.sbautoincrement then sb.abs else _
  split
  · rfl
  · unfold abs
    dsimp only at hlo hhi ⊢
    rw [hlo, apply_ite BitVec.toNat, hhi]
    rfl

theorem sbaArmRead_abs (a : BitVec 32) : (sb.sbaArmRead a).abs = sb.abs.sbaArmRead a.toNat := by
  have hget : sb.abs.shadowMem.get? a.toNat = (sb.shadowMem.get? a).map BitVec.toNat :=
    Dict.get?_toNat _ _
  unfold sbaArmRead SystemBus.sbaArmRead
  rw [hget]
  cases sb.shadowMem.get? a <;> rfl

theorem writeSbaddress0_abs (value : BitVec 32) :
    (sb.writeSbaddress0 cfg value).abs = sb.abs.writeSbaddress0 cfg.declared value.toNat := by
  unfold writeSbaddress0 SystemBus.writeSbaddress0
  show (if sb.sbcsReadOnAddrArmed then _ else _ : SystemBusS).abs = if sb.sbcsReadOnAddrArmed then _ else _
  split
  · rw [sbaAutoincrement_abs, sbaArmRead_abs]
    rfl
  · rfl

theorem writeSbdata0_abs (value : BitVec 32) :
    (sb.writeSbdata0 cfg value).abs = sb.abs.writeSbdata0 cfg.declared value.toNat := by
  unfold writeSbdata0 SystemBus.writeSbdata0
  rw [sbaAutoincrement_abs]
  congr 1
  unfold abs
  rw [Dict.toNat_set]

theorem sbdata0ReadEffects_abs :
    (sb.sbdata0ReadEffects cfg).abs = sb.abs.sbdata0ReadEffects cfg.declared := by
  unfold sbdata0ReadEffects SystemBus.sbdata0ReadEffects
  show (if sb.sbreadondata then _ else sb).abs = if sb.sbreadondata then _ else sb.abs
  split
  · rw [sbaAutoincrement_abs, sbaArmRead_abs]
    rfl
  · rfl

end SystemBusS

end RiscvDbg

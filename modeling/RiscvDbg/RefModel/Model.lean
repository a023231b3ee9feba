import RiscvDbg.Lib.Runs
import RiscvDbg.Lib.Words
import RiscvDbg.RefModel.Config

/-!
# The SystemVerilog reference model

Model of `dm_ref_model` (`sv/model/dm_ref_model.sv`) with bit vectors for packed values and
dictionaries for associative arrays.  The fields of the class are grouped as those of the Python model
are.

* `HartSignalBit`, `HartStateS`, `RunControlS` — the harts and the `dmcontrol` write, whose selected
  hart is one index guarded by `hartExists`.
* `AbstractCommandS`, `SystemBusS` — the two shadows.
* `DmRefModel` — the whole class; `InputS` and `DmRefModel.step` collect its inputs, and `hasModel`,
  `predict` and `predictMask` are what the checker asks it.

The tracing calls are left out: they change nothing.  An array of harts is a list, so its size is not
bounded by the range of `int`.
-/

set_option autoImplicit false

namespace RiscvDbg

open Words (setSlice setBit)

/-! ## Harts -/

/-- `hart_signal_bit`.  No two harts share a handle, so the object is its value. -/
structure HartSignalBit where
  value : Bool

namespace HartSignalBit

def get (b : HartSignalBit) : Bool := b.value

/-- The model's own prediction. -/
def set (_ : HartSignalBit) (v : Bool) : HartSignalBit := ⟨v⟩

/-- The value a read has shown. -/
def observe (_ : HartSignalBit) (v : Bool) : HartSignalBit := ⟨v⟩

end HartSignalBit

/-- `hart_state_s`. -/
structure HartStateS where
  haltRequest : Bool
  resetHaltreq : Bool
  hartReset : Bool
  halted : HartSignalBit
  running : HartSignalBit
  resumeAck : HartSignalBit
  havereset : Bool
  available : Bool
  unavailSticky : Bool
  nonexistent : Bool

namespace HartStateS

/-- `release_from_reset`, of a hart that is in the array. -/
def releaseFromReset (h : HartStateS) : HartStateS :=
  if h.nonexistent then h
  else if h.resetHaltreq || h.haltRequest then
    { h with havereset := true, halted := h.halted.set true, running := h.running.set false }
  else { h with havereset := true, halted := h.halted.set false, running := h.running.set true }

/-- One hart of `apply_ndmreset` on the asserting edge. -/
def enterNdmreset (resumeackReset : Bool) (h : HartStateS) : HartStateS :=
  { h with
    halted := h.halted.set false
    running := h.running.set (!(h.unavailSticky || !h.available))
    havereset := true
    resumeAck := h.resumeAck.set resumeackReset }

/-- The selected hart of `apply_hartreset` on the asserting edge. -/
def enterHartreset (resumeackReset : Bool) (h : HartStateS) : HartStateS :=
  { h with
    hartReset := true
    halted := h.halted.set false
    running := h.running.set false
    resumeAck := h.resumeAck.set resumeackReset }

/-- The halt-on-reset request of the selected hart. -/
def requestResethalt (set clr : Bool) (h : HartStateS) : HartStateS :=
  if clr then { h with resetHaltreq := false }
  else if set then { h with resetHaltreq := true }
  else h

/-- The acknowledgements and the halt request of the selected hart. -/
def acknowledgeAndHalt (ackhavereset ackunavail haltreq : Bool) (h : HartStateS) : HartStateS :=
  let h := if ackhavereset then { h with havereset := false } else h
  let h := if ackunavail && h.available then { h with unavailSticky := false } else h
  let h := { h with haltRequest := haltreq }
  if haltreq && !h.nonexistent && !(h.unavailSticky || !h.available) then
    if h.running.get && !h.halted.get then
      { h with halted := h.halted.set true, running := h.running.set false }
    else h
  else h

/-- One hart of `settle_reset_state`. -/
def settle (ndmreset : Bool) (h : HartStateS) : HartStateS :=
  if ndmreset || (h.hartReset && !h.nonexistent) then
    { h with
      halted := h.halted.set false
      running := h.running.set (!(h.unavailSticky || !h.available)) }
  else h

end HartStateS

/-- The DM-wide run-control state. -/
structure RunControlS where
  dmactive : Bool
  ndmreset : Bool
  hartsel : BitVec 20
  hasel : Bool
  hartresetLevel : Bool
  harts : List HartStateS

/-- The abstract-command registers and the register shadow. -/
structure AbstractCommandS where
  abstractauto : BitVec 32
  shadowRegs : Dict (BitVec 16) (BitVec 32)
  shadowHi : Dict (BitVec 16) (BitVec 32)
  stagedData0 : BitVec 32
  stagedData1 : BitVec 32
  data0PendingValid : Bool
  data0PendingValue : BitVec 32
  dataQ : List (BitVec 32)
  dataKnown : List Bool
  progbufQ : List (BitVec 32)
  lastCommand : BitVec 32

namespace RunControlS

/-- The hart that `reset_dm` builds at an index where `prev` stood before. -/
def resetHart (p : ParamsS) (powerOn : Bool) (prev : Option HartStateS) : HartStateS :=
  let h : HartStateS :=
    { haltRequest := false
      resetHaltreq := false
      hartReset := false
      unavailSticky := false
      nonexistent := false
      resumeAck := ⟨p.resumeackReset⟩
      available := true
      halted := ⟨false⟩
      running := ⟨true⟩
      havereset := p.haveresetPoweron }
  match powerOn, prev with
  | false, some q => { h with halted := ⟨q.halted.get⟩, running := ⟨q.running.get⟩, havereset := q.havereset }
  | _, _ => h

/-- The run-control part of `reset_dm`. -/
def resetDm (p : ParamsS) (powerOn : Bool) (rc : RunControlS) : RunControlS where
  dmactive := false
  ndmreset := false
  hartsel := 0
  hasel := false
  hartresetLevel := false
  harts := (List.range (if p.numHarts.toNat > 0 then p.numHarts.toNat else 1)).map fun i =>
    resetHart p powerOn rc.harts[i]?

def selectedIndex (rc : RunControlS) : Nat := rc.hartsel.toNat

def hartExists (rc : RunControlS) (idx : Nat) : Bool := idx < rc.harts.length

/-- `foreach (harts[i])`. -/
def forHarts (rc : RunControlS) (f : HartStateS → HartStateS) : RunControlS :=
  { rc with harts := rc.harts.map f }

/-- Assignments to `harts[idx]`. -/
def update (rc : RunControlS) (idx : Nat) (f : HartStateS → HartStateS) : RunControlS :=
  { rc with harts := rc.harts.modify idx f }

/-- `harts[i].nonexistent = is_nonexistent(i)` for every hart. -/
def markNonexistent (p : ParamsS) (rc : RunControlS) : RunControlS :=
  { rc with harts := rc.harts.mapIdx fun i h => { h with nonexistent := p.numHarts.toNat ≤ i } }

/-- `apply_ndmreset`. -/
def applyNdmreset (p : ParamsS) (asserted : Bool) (rc : RunControlS) : RunControlS :=
  if asserted && !rc.ndmreset then
    { rc with ndmreset := true }.forHarts (·.enterNdmreset p.resumeackReset)
  else if !asserted && rc.ndmreset then
    { rc with ndmreset := false }.forHarts (·.releaseFromReset)
  else rc

/-- `apply_hartreset`: nothing happens, to the level either, when the selected hart is not there. -/
def applyHartreset (p : ParamsS) (asserted : Bool) (rc : RunControlS) : RunControlS :=
  let sel := rc.selectedIndex
  if !rc.hartExists sel then rc
  else if asserted && !rc.hartresetLevel then
    { rc with hartresetLevel := true }.update sel (·.enterHartreset p.resumeackReset)
  else if !asserted && rc.hartresetLevel then
    { rc with hartresetLevel := false }.update sel fun h =>
      HartStateS.releaseFromReset { h with hartReset := false }
  else rc

/-- `apply_resumereq`. -/
def applyResumereq (rc : RunControlS) (ac : AbstractCommandS) (sel : Nat) :
    RunControlS × AbstractCommandS :=
  match rc.harts[sel]? with
  | none => (rc, ac)
  | some h =>
    if h.nonexistent || h.unavailSticky || !h.available then (rc, ac)
    else if h.halted.get then
      let stepArmed := (ac.shadowRegs.get? (BitVec.ofNat 16 DCSR_REGNO)).any (·.getLsbD DCSR_STEP_BIT)
      (rc.update sel fun h =>
          { h with
            halted := h.halted.set stepArmed
            running := h.running.set (!stepArmed)
            resumeAck := h.resumeAck.set true },
        { ac with shadowRegs := .empty, shadowHi := .empty })
    else (rc.update sel fun h => { h with resumeAck := h.resumeAck.set false }, ac)

/-- `settle_reset_state`. -/
def settleResetState (rc : RunControlS) : RunControlS := rc.forHarts (·.settle rc.ndmreset)

/-- `write_dmcontrol` with `dmactive = 1`. -/
def writeActive (p : ParamsS) (rc : RunControlS) (ac : AbstractCommandS) (value : BitVec 32) :
    RunControlS × AbstractCommandS :=
  let rc := { rc with
    dmactive := true
    hartsel := value.extractLsb' 6 10 ++ value.extractLsb' 16 10
    hasel := if p.supportsHasel then value.getLsbD 26 else false }
  let rc := rc.markNonexistent p
  let rc := rc.applyNdmreset p (value.getLsbD 1)
  let rc := rc.applyHartreset p (value.getLsbD 29 && p.supportsHartreset)
  let sel := rc.selectedIndex
  let rc :=
    if p.hasresethaltreq && rc.hartExists sel then
      rc.update sel (·.requestResethalt (value.getLsbD 3) (value.getLsbD 2))
    else rc
  let st :=
    if rc.hartExists sel then
      let rc := rc.update sel
        (·.acknowledgeAndHalt (value.getLsbD 28) (value.getLsbD 27) (value.getLsbD 31))
      if value.getLsbD 30 && !value.getLsbD 31 then rc.applyResumereq ac sel else (rc, ac)
    else (rc, ac)
  (st.1.settleResetState, st.2)

/-- `sync_observed_hart_signals`. -/
def syncObservedHartSignals (rc : RunControlS) (r : BitVec 32) : RunControlS :=
  let sel := rc.selectedIndex
  if !rc.hartExists sel then rc
  else rc.update sel fun h =>
    { h with
      halted := h.halted.observe (r.getLsbD 9)
      running := h.running.observe (r.getLsbD 11)
      resumeAck := h.resumeAck.observe (r.getLsbD 17) }

end RunControlS

/-! ## Abstract commands -/

def isDataS (addr : BitVec 7) : Bool := DM_ADDR_DATA0 ≤ addr && addr ≤ DM_ADDR_DATA11

def isProgbufS (addr : BitVec 7) : Bool := DM_ADDR_PROGBUF0 ≤ addr && addr ≤ DM_ADDR_PROGBUF15

/-- `addr - DM_ADDR_DATA0`, as an index. -/
def dataIndex (addr : BitVec 7) : Nat := addr.toNat - DM_ADDR_DATA0.toNat

/-- `addr - DM_ADDR_PROGBUF0`, as an index. -/
def progbufIndex (addr : BitVec 7) : Nat := addr.toNat - DM_ADDR_PROGBUF0.toNat

/-- `reads_back_as_written`. -/
def readsBackAsWrittenS (regno : BitVec 16) : Bool := !(0x07A0#16 ≤ regno && regno ≤ 0x07AF#16)

namespace AbstractCommandS

def init : AbstractCommandS where
  abstractauto := 0
  shadowRegs := .empty
  shadowHi := .empty
  stagedData0 := 0
  stagedData1 := 0
  data0PendingValid := false
  data0PendingValue := 0
  dataQ := List.replicate 12 0
  dataKnown := List.replicate 12 false
  progbufQ := List.replicate 16 0
  lastCommand := 0

/-- The abstract-command part of `reset_declared_regs`. -/
def resetDeclaredRegs (ac : AbstractCommandS) : AbstractCommandS :=
  { ac with
    abstractauto := 0
    stagedData0 := 0
    stagedData1 := 0
    data0PendingValid := true
    data0PendingValue := 0
    dataQ := List.replicate 12 0
    dataKnown := List.replicate 12 true
    progbufQ := List.replicate 16 0
    lastCommand := 0 }

/-- Upper word of a transfer: moved only by a 64-bit command. -/
def transferHi (wr : Bool) (regno : BitVec 16) (aarsize : BitVec 3) (ac : AbstractCommandS) :
    AbstractCommandS :=
  if aarsize == 3#3 then
    if wr then { ac with shadowHi := ac.shadowHi.set regno ac.stagedData1 }
    else if regno == BitVec.ofNat 16 GPR_X0_REGNO then
      { ac with dataQ := ac.dataQ.set 1 0, dataKnown := ac.dataKnown.set 1 true }
    else
      match ac.shadowHi.get? regno, readsBackAsWrittenS regno with
      | some v, true => { ac with dataQ := ac.dataQ.set 1 v, dataKnown := ac.dataKnown.set 1 true }
      | _, _ => { ac with dataKnown := ac.dataKnown.set 1 false }
  else if wr then { ac with shadowHi := ac.shadowHi.pop regno }
  else ac

/-- Lower word of a transfer. -/
def transferLo (wr : Bool) (regno : BitVec 16) (ac : AbstractCommandS) : AbstractCommandS :=
  if wr then { ac with shadowRegs := ac.shadowRegs.set regno ac.stagedData0 }
  else if regno == BitVec.ofNat 16 GPR_X0_REGNO then
    { ac with data0PendingValid := true, data0PendingValue := 0 }
  else
    match ac.shadowRegs.get? regno, readsBackAsWrittenS regno with
    | some v, true => { ac with data0PendingValid := true, data0PendingValue := v }
    | _, _ => { ac with data0PendingValid := false }

/-- `execute_command`. -/
def executeCommand (ac : AbstractCommandS) (value : BitVec 32) : AbstractCommandS :=
  let postexec := value.getLsbD 18
  let transfer := value.getLsbD 17
  let wr := value.getLsbD 16
  let regno := value.extractLsb' 0 16
  let aarsize := value.extractLsb' 20 3
  if value.extractLsb' 24 8 != 0#8 || aarsize > 3#3 then ac
  else
    let ac := if transfer then (ac.transferHi wr regno aarsize).transferLo wr regno else ac
    if postexec then { ac with shadowRegs := .empty, shadowHi := .empty } else ac

/-- `autoexec_armed`. -/
def autoexecArmed (cfg : DmCfg) (busy : Bool) (ac : AbstractCommandS) (addr : BitVec 7) : Bool :=
  if !cfg.abstractautoEnable || busy then false
  else if isDataS addr then ac.abstractauto.getLsbD (dataIndex addr)
  else ac.abstractauto.getLsbD (16 + progbufIndex addr)

/-- Re-run the last command if `addr` is armed. -/
def autoexec (cfg : DmCfg) (busy : Bool) (ac : AbstractCommandS) (addr : BitVec 7) : AbstractCommandS :=
  if ac.autoexecArmed cfg busy addr then ac.executeCommand ac.lastCommand else ac

/-- `write_buffer`. -/
def writeBuffer (cfg : DmCfg) (busy : Bool) (ac : AbstractCommandS) (addr : BitVec 7)
    (value : BitVec 32) : AbstractCommandS :=
  if isDataS addr then
    let i := dataIndex addr
    if i ≥ cfg.datacount.toNat then ac
    else
      let ac :=
        if i == 0 then
          { ac with stagedData0 := value, data0PendingValid := true, data0PendingValue := value }
        else
          { ac with
            dataQ := ac.dataQ.set i value
            dataKnown := ac.dataKnown.set i true
            stagedData1 := if i == 1 then value else ac.stagedData1 }
      ac.autoexec cfg busy addr
  else
    let i := progbufIndex addr
    if i ≥ cfg.progbufsize.toNat then ac
    else AbstractCommandS.autoexec cfg busy { ac with progbufQ := ac.progbufQ.set i value } addr

/-- The abstract-command part of `observe_read`. -/
def observeRead (cfg : DmCfg) (busy : Bool) (ac : AbstractCommandS) (addr : BitVec 7) :
    AbstractCommandS :=
  if (isDataS addr && dataIndex addr < cfg.datacount.toNat)
      || (isProgbufS addr && progbufIndex addr < cfg.progbufsize.toNat) then
    ac.autoexec cfg busy addr
  else ac

/-- `write_command`. -/
def writeCommand (ac : AbstractCommandS) (value : BitVec 32) : AbstractCommandS :=
  { ac with lastCommand := value }.executeCommand value

end AbstractCommandS

/-! ## System Bus Access -/

/-- The system-bus registers and the memory shadow. -/
structure SystemBusS where
  sbreadonaddr : Bool
  sbaccess : BitVec 3
  sbautoincrement : Bool
  sbreadondata : Bool
  shadowMem : Dict (BitVec 32) (BitVec 32)
  sbaddress0 : BitVec 32
  sbaddress1 : BitVec 32
  sbcsReadOnAddrArmed : Bool
  sbdata0PendingValid : Bool
  sbdata0PendingValue : BitVec 32
  sbdata1 : BitVec 32
  sbdata1Known : Bool

namespace SystemBusS

def init : SystemBusS where
  sbreadonaddr := false
  sbaccess := 0
  sbautoincrement := false
  sbreadondata := false
  shadowMem := .empty
  sbaddress0 := 0
  sbaddress1 := 0
  sbcsReadOnAddrArmed := false
  sbdata0PendingValid := false
  sbdata0PendingValue := 0
  sbdata1 := 0
  sbdata1Known := false

/-- The system-bus part of `reset_declared_regs`. -/
def resetDeclaredRegs (cfg : DmCfg) (sb : SystemBusS) : SystemBusS :=
  { sb with
    sbreadonaddr := false
    sbaccess := cfg.sbaccessReset
    sbautoincrement := false
    sbreadondata := false
    sbaddress0 := 0
    sbaddress1 := 0
    sbdata0PendingValid := true
    sbdata0PendingValue := 0
    sbdata1 := 0
    sbdata1Known := true }

/-- `write_sbcs`. -/
def writeSbcs (cfg : DmCfg) (sb : SystemBusS) (value : BitVec 32) : SystemBusS :=
  { sb with
    sbcsReadOnAddrArmed := value.getLsbD 20
    sbreadonaddr := value.getLsbD 20
    sbaccess := if cfg.sbaccessWritable then value.extractLsb' 17 3 else sb.sbaccess
    sbautoincrement := value.getLsbD 16
    sbreadondata := value.getLsbD 15 }

/-- `sba_autoincrement`, with its 64-bit sum. -/
def sbaAutoincrement (cfg : DmCfg) (sb : SystemBusS) : SystemBusS :=
  if !sb.sbautoincrement then sb
  else
    let a : BitVec 64 := (sb.sbaddress1 ++ sb.sbaddress0) + (1#64 <<< sb.sbaccess.toNat)
    { sb with
      sbaddress0 := a.extractLsb' 0 32
      sbaddress1 := if cfg.sbasize.toNat > 32 then a.extractLsb' 32 32 else sb.sbaddress1 }

/-- `sba_arm_read`. -/
def sbaArmRead (sb : SystemBusS) (a : BitVec 32) : SystemBusS :=
  match sb.shadowMem.get? a with
  | some v =>
    { sb with sbdata1Known := false, sbdata0PendingValid := true, sbdata0PendingValue := v }
  | none => { sb with sbdata1Known := false, sbdata0PendingValid := false }

/-- `write_sbaddress0`. -/
def writeSbaddress0 (cfg : DmCfg) (sb : SystemBusS) (value : BitVec 32) : SystemBusS :=
  let sb := { sb with sbaddress0 := value }
  if sb.sbcsReadOnAddrArmed then (sb.sbaArmRead value).sbaAutoincrement cfg else sb

/-- `write_sbdata0`. -/
def writeSbdata0 (cfg : DmCfg) (sb : SystemBusS) (value : BitVec 32) : SystemBusS :=
  sbaAutoincrement cfg { sb with shadowMem := sb.shadowMem.set sb.sbaddress0 value }

/-- A write of `sbdata1`. -/
def writeSbdata1 (sb : SystemBusS) (value : BitVec 32) : SystemBusS :=
  { sb with sbdata1 := value, sbdata1Known := true }

/-- `sbdata0_read_effects`. -/
def sbdata0ReadEffects (cfg : DmCfg) (sb : SystemBusS) : SystemBusS :=
  if sb.sbreadondata then (sb.sbaArmRead sb.sbaddress0).sbaAutoincrement cfg else sb

end SystemBusS

/-! ## The whole model -/

/-- `dm_ref_model`. -/
structure DmRefModel where
  params : ParamsS
  cfg : DmCfg
  cfgValid : Bool
  rc : RunControlS
  ac : AbstractCommandS
  sb : SystemBusS
  hawindowsel : BitVec 15
  authdata : BitVec 32
  relaxedpriv : Bool
  hawindowQ : Dict (BitVec 15) (BitVec 32)
  observedCmdbusy : Bool

namespace DmRefModel

/-- `reset_declared_regs`. -/
def resetDeclaredRegs (m : DmRefModel) : DmRefModel :=
  { m with
    ac := m.ac.resetDeclaredRegs
    sb := m.sb.resetDeclaredRegs m.cfg
    hawindowsel := 0
    authdata := 0
    relaxedpriv := m.cfg.relaxedprivReset
    hawindowQ := .empty }

/-- `reset_dm`. -/
def resetDm (m : DmRefModel) (powerOn : Bool) : DmRefModel :=
  { m.resetDeclaredRegs with rc := m.rc.resetDm m.params powerOn }

/-- `new`. -/
def new (p : ParamsS) : DmRefModel :=
  let m : DmRefModel :=
    { params := p
      cfg := {}
      cfgValid := false
      rc := ⟨false, false, 0, false, false, []⟩
      ac := .init
      sb := .init
      hawindowsel := 0
      authdata := 0
      relaxedpriv := false
      hawindowQ := .empty
      observedCmdbusy := false }
  m.resetDm true

/-- `set_config`. -/
def setConfig (m : DmRefModel) (c : DmCfg) : DmRefModel :=
  resetDm { m with cfg := c, cfgValid := true, params := c.params } true

/-- `set_observed_cmdbusy`. -/
def setObservedCmdbusy (m : DmRefModel) (b : Bool) : DmRefModel := { m with observedCmdbusy := b }

/-- `guarded_while_busy`. -/
def guardedWhileBusy (addr : BitVec 7) : Bool :=
  (addr == DM_ADDR_COMMAND || addr == DM_ADDR_ABSTRACTCS || addr == DM_ADDR_ABSTRACTAUTO)
    || (DM_ADDR_DATA0 ≤ addr && addr ≤ DM_ADDR_DATA11)
    || (DM_ADDR_PROGBUF0 ≤ addr && addr ≤ DM_ADDR_PROGBUF15)

/-- `hawindow_implemented`. -/
def hawindowImplemented (m : DmRefModel) (sel : BitVec 15) : BitVec 32 :=
  let lo := 32 * sel.toNat
  (List.range' lo (min m.params.numHarts.toNat (32 * (sel.toNat + 1)) - lo)).foldl
    (fun w h => setBit w (h - lo) true) 0

/-- `write_dmcontrol`. -/
def writeDmcontrol (m : DmRefModel) (value : BitVec 32) : DmRefModel :=
  if !value.getLsbD 0 then m.resetDm false
  else
    let st := m.rc.writeActive m.params m.ac value
    { m with rc := st.1, ac := st.2 }

/-- `on_write`. -/
def onWrite (m : DmRefModel) (addr : BitVec 7) (value : BitVec 32) : DmRefModel :=
  if m.observedCmdbusy && guardedWhileBusy addr then m
  else if isDataS addr || isProgbufS addr then
    { m with ac := m.ac.writeBuffer m.cfg m.observedCmdbusy addr value }
  else if addr = DM_ADDR_DMCONTROL then m.writeDmcontrol value
  else if addr = DM_ADDR_COMMAND then { m with ac := m.ac.writeCommand value }
  else if addr = A_SBADDRESS1 then { m with sb := { m.sb with sbaddress1 := value } }
  else if addr = A_SBDATA1 then { m with sb := m.sb.writeSbdata1 value }
  else if addr = DM_ADDR_HAWINDOW then
    if m.cfg.hartarrayEnable then
      { m with hawindowQ := m.hawindowQ.set m.hawindowsel (value &&& m.hawindowImplemented m.hawindowsel) }
    else m
  else if addr = DM_ADDR_SBCS then { m with sb := m.sb.writeSbcs m.cfg value }
  else if addr = DM_ADDR_SBADDRESS0 then { m with sb := m.sb.writeSbaddress0 m.cfg value }
  else if addr = DM_ADDR_SBDATA0 then { m with sb := m.sb.writeSbdata0 m.cfg value }
  else if addr = DM_ADDR_ABSTRACTAUTO then { m with ac := { m.ac with abstractauto := value } }
  else if addr = DM_ADDR_HAWINDOWSEL then { m with hawindowsel := value.extractLsb' 0 15 }
  else if addr = DM_ADDR_ABSTRACTCS then
    if m.params.version ≥ VERSION_1_0 then { m with relaxedpriv := value.getLsbD 11 } else m
  else m

/-- `observe_read`. -/
def observeRead (m : DmRefModel) (addr : BitVec 7) : DmRefModel :=
  let m := if addr = DM_ADDR_SBDATA0 then { m with sb := m.sb.sbdata0ReadEffects m.cfg } else m
  { m with ac := m.ac.observeRead m.cfg m.observedCmdbusy addr }

/-- `observe_sbdata0_read`. -/
def observeSbdata0Read (m : DmRefModel) : DmRefModel := { m with sb := m.sb.sbdata0ReadEffects m.cfg }

/-- `sync_observed_hart_signals`. -/
def syncObservedHartSignals (m : DmRefModel) (r : BitVec 32) : DmRefModel :=
  { m with rc := m.rc.syncObservedHartSignals r }

/-! ### Read prediction -/

/-- `sba_wider_than_32`. -/
def sbaWiderThan32 (m : DmRefModel) : Bool := m.cfg.sbaEnable && (m.cfg.sbaccess64 || m.cfg.sbaccess128)

/-- `has_model`. -/
def hasModel (m : DmRefModel) (addr : BitVec 7) : Bool :=
  let c := m.cfg
  if addr = DM_ADDR_DMCONTROL ∨ addr = DM_ADDR_DMSTATUS then true
  else if !m.cfgValid then false
  else if !m.rc.dmactive then false
  else if addr = DM_ADDR_DATA0 then m.ac.data0PendingValid
  else if isDataS addr && dataIndex addr < c.datacount.toNat then
    (m.ac.dataKnown[dataIndex addr]?).getD false
  else if addr = DM_ADDR_SBDATA0 then !c.sbaEnable || m.sb.sbdata0PendingValid
  else if addr = A_SBDATA1 then !m.sbaWiderThan32 || m.sb.sbdata1Known
  else if addr = A_SBDATA2 ∨ addr = A_SBDATA3 then !(c.sbaEnable && c.sbaccess128)
  else if addr = A_SBADDRESS2 then !(c.sbaEnable && c.sbasize.toNat > 64)
  else if addr = A_SBADDRESS3 then !(c.sbaEnable && c.sbasize.toNat > 96)
  else if addr = DM_ADDR_AUTHDATA then !c.authenticationEnable
  else if addr = DM_ADDR_DMCS2 then !c.haltgroupsEnable
  else true

/-- `harts[i].halted.get()`. -/
def hartHalted (m : DmRefModel) (i : Nat) : Bool := (m.rc.harts[i]?).any (·.halted.get)

/-- The signals `expect_dmstatus` collects: halted, running, havereset, resumeack, nonexist and
unavail; a selected index outside the array leaves all but `nonexist` at 0. -/
def selectedSignals (m : DmRefModel) : Bool × Bool × Bool × Bool × Bool × Bool :=
  match m.rc.harts[m.rc.selectedIndex]? with
  | some h =>
    (h.halted.get, h.running.get, h.havereset, h.resumeAck.get, h.nonexistent,
      h.unavailSticky || !h.available)
  | none => (false, false, false, false, true, false)

/-- `expect_dmstatus`. -/
def expectDmstatus (m : DmRefModel) : BitVec 32 :=
  let (halted, running, havereset, resumeack, nonexist, unavail) := m.selectedSignals
  let w : BitVec 32 := 0
  let w := setBit w 24 (if m.params.version ≥ VERSION_1_0 then m.rc.ndmreset else false)
  let w := setBit w 23 m.params.stickyunavail
  let w := setBit w 22 m.params.impebreak
  let w := setBit w 19 havereset
  let w := setBit w 18 havereset
  let w := setBit w 17 resumeack
  let w := setBit w 16 resumeack
  let w := setBit w 15 nonexist
  let w := setBit w 14 nonexist
  let w := setBit w 13 unavail
  let w := setBit w 12 unavail
  let w := setBit w 11 running
  let w := setBit w 10 running
  let w := setBit w 9 halted
  let w := setBit w 8 halted
  let w := setBit w 7 m.params.authenticated
  let w := setBit w 6 false
  let w := setBit w 5 m.params.hasresethaltreq
  let w := setBit w 4 false
  setSlice w 0 m.params.version

/-- `expect_dmcontrol`. -/
def expectDmcontrol (m : DmRefModel) : BitVec 32 :=
  let w : BitVec 32 := 0
  let w := setBit w 0 m.rc.dmactive
  let w := setBit w 1 m.rc.ndmreset
  let w := setBit w 26 m.rc.hasel
  let w := setBit w 29 (m.rc.hartresetLevel && m.params.supportsHartreset)
  let w := setSlice w 6 (m.rc.hartsel.extractLsb' 10 10)
  setSlice w 16 (m.rc.hartsel.extractLsb' 0 10)

/-- `expect_hartinfo`. -/
def expectHartinfo (c : DmCfg) : BitVec 32 :=
  let w : BitVec 32 := 0
  let w := setSlice w 20 c.nscratch
  let w := setBit w 16 c.dataaccess
  let w := setSlice w 12 c.datasize
  setSlice w 0 c.dataaddr

/-- `expect_abstractcs`. -/
def expectAbstractcs (m : DmRefModel) : BitVec 32 :=
  let w : BitVec 32 := 0
  let w := setSlice w 24 m.cfg.progbufsize
  let w := setBit w 11 m.relaxedpriv
  setSlice w 0 m.cfg.datacount

/-- `expect_abstractauto`; the masks are computed in 32 bits and cut to the slice. -/
def expectAbstractauto (m : DmRefModel) : BitVec 32 :=
  let w : BitVec 32 := 0
  let w := setSlice w 16
    (((m.ac.abstractauto.extractLsb' 16 16).setWidth 32 &&& ((1#32 <<< m.cfg.progbufsize.toNat) - 1#32)).setWidth 16)
  setSlice w 0
    (((m.ac.abstractauto.extractLsb' 0 12).setWidth 32 &&& ((1#32 <<< m.cfg.datacount.toNat) - 1#32)).setWidth 12)

/-- `expect_sbcs`. -/
def expectSbcs (m : DmRefModel) : BitVec 32 :=
  let w : BitVec 32 := 0
  let w := setSlice w 29 m.cfg.sbversion
  let w := setBit w 20 m.sb.sbreadonaddr
  let w := setSlice w 17 m.sb.sbaccess
  let w := setBit w 16 m.sb.sbautoincrement
  let w := setBit w 15 m.sb.sbreadondata
  let w := setSlice w 5 m.cfg.sbasize
  let w := setBit w 4 m.cfg.sbaccess128
  let w := setBit w 3 m.cfg.sbaccess64
  let w := setBit w 2 m.cfg.sbaccess32
  let w := setBit w 1 m.cfg.sbaccess16
  setBit w 0 m.cfg.sbaccess8

/-- `expect_haltsum0`. -/
def expectHaltsum0 (m : DmRefModel) : BitVec 32 :=
  (List.range (min m.params.numHarts.toNat 32)).foldl
    (fun w i => if m.hartHalted i then setBit w i true else w) 0

/-- `expect_haltsum`. -/
def expectHaltsum (m : DmRefModel) (n : Nat) : BitVec 32 :=
  let lo := 5 * n
  if !m.cfg.haltsumGroupsPresent then 0
  else
    (List.range m.params.numHarts.toNat).foldl
      (fun w h =>
        if !m.hartHalted h then w
        else if n < 3 && (h >>> (lo + 5)) != (m.rc.hartsel.toNat >>> (lo + 5)) then w
        else setBit w ((h >>> lo) &&& 31) true) 0

/-- `predict`. -/
def predict (m : DmRefModel) (addr : BitVec 7) : BitVec 32 :=
  let c := m.cfg
  if isDataS addr then
    let i := dataIndex addr
    if i ≥ c.datacount.toNat then 0
    else if i = 0 then m.ac.data0PendingValue else (m.ac.dataQ[i]?).getD 0
  else if isProgbufS addr then
    let i := progbufIndex addr
    if i < c.progbufsize.toNat && c.progbufReadable then (m.ac.progbufQ[i]?).getD 0 else 0
  else if addr = DM_ADDR_DMCONTROL then m.expectDmcontrol
  else if addr = DM_ADDR_DMSTATUS then m.expectDmstatus
  else if addr = DM_ADDR_HARTINFO then expectHartinfo c
  else if addr = DM_ADDR_ABSTRACTCS then m.expectAbstractcs
  else if addr = DM_ADDR_COMMAND then 0
  else if addr = DM_ADDR_ABSTRACTAUTO then if c.abstractautoEnable then m.expectAbstractauto else 0
  else if addr = DM_ADDR_HALTSUM0 then m.expectHaltsum0
  else if addr = A_HALTSUM1 then m.expectHaltsum 1
  else if addr = A_HALTSUM2 then m.expectHaltsum 2
  else if addr = A_HALTSUM3 then m.expectHaltsum 3
  else if addr = DM_ADDR_HAWINDOWSEL then
    if c.hartarrayEnable then (0#17 ++ m.hawindowsel : BitVec 32) else 0
  else if addr = DM_ADDR_HAWINDOW then
    if c.hartarrayEnable then (m.hawindowQ.get? m.hawindowsel).getD 0 else 0
  else if addr = DM_ADDR_NEXTDM then c.nextdm
  else if addr = DM_ADDR_SBCS then if c.sbaEnable then m.expectSbcs else 0
  else if addr = DM_ADDR_SBADDRESS0 then if c.sbaEnable then m.sb.sbaddress0 else 0
  else if addr = A_SBADDRESS1 then if c.sbaEnable && c.sbasize.toNat > 32 then m.sb.sbaddress1 else 0
  else if addr = DM_ADDR_SBDATA0 then if c.sbaEnable then m.sb.sbdata0PendingValue else 0
  else if addr = A_SBDATA1 then if m.sbaWiderThan32 then m.sb.sbdata1 else 0
  else 0

/-- `predict_mask`. -/
def predictMask (addr : BitVec 7) : BitVec 32 :=
  if addr = DM_ADDR_ABSTRACTCS then 0xFFFF_E8FF#32
  else if addr = DM_ADDR_SBCS then 0xFF9F_8FFF#32
  else 0xFFFF_FFFF#32

end DmRefModel

/-! ## Inputs and runs -/

/-- The inputs of the model after `set_config`. -/
inductive InputS where
  | setObservedCmdbusy (busy : Bool)
  | onWrite (addr : BitVec 7) (value : BitVec 32)
  | observeRead (addr : BitVec 7)
  | observeSbdata0Read
  | syncObservedHartSignals (r : BitVec 32)

/-- One input. -/
def DmRefModel.step (m : DmRefModel) : InputS → DmRefModel
  | .setObservedCmdbusy busy => m.setObservedCmdbusy busy
  | .onWrite addr value => m.onWrite addr value
  | .observeRead addr => m.observeRead addr
  | .observeSbdata0Read => m.observeSbdata0Read
  | .syncObservedHartSignals r => m.syncObservedHartSignals r

/-- A freshly constructed model with a declared configuration applied. -/
def DmRefModel.declared (c : DmCfg) : DmRefModel := (DmRefModel.new {}).setConfig c

end RiscvDbg

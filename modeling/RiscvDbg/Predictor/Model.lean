import RiscvDbg.Lib.Runs
import RiscvDbg.Predictor.HartWrite
import RiscvDbg.Predictor.SystemBus

/-!
# The Python reference model

Model of `DMPredictor` (`model/predictor.py`): state, configuration, DMI writes, read side effects
and read prediction, over the run-control, abstract-command and system-bus parts.

* `DMPredictor.init` / `DMPredictor.setConfig` — construction and the declared implementation.
* `DMPredictor.onWrite`, `DMPredictor.observeRead`, … — the inputs; `Input` and `DMPredictor.step`
  collect them, and a run is `Runs.run DMPredictor.step`.
* `DMPredictor.hasModel`, `DMPredictor.predict`, `predictMask` — what a DMI read should return.
* `DMPredictor.snapshot` — the plain-data copy the invariant checker works on.

Python integers are `Nat`: every address and data word is non-negative, and `onWrite` masks its
value to 32 bits as the source does.
-/

set_option autoImplicit false

namespace RiscvDbg

/-- State of the Python reference model. -/
structure DMPredictor where
  params : Params
  cfg : DeclaredConfig
  cfgValid : Bool
  rc : RunControl
  ac : AbstractCommand
  sb : SystemBus
  hawindowsel : Nat
  authdata : Nat
  relaxedpriv : Bool
  hawindow : Dict Nat Nat
  /-- The RTL's `abstractcs.busy` as last observed by the checker. -/
  observedCmdbusy : Bool

namespace DMPredictor

/-! ## Reset and configuration -/

/-- `_reset_declared_regs`. -/
def resetDeclaredRegs (s : DMPredictor) : DMPredictor :=
  { s with
    ac := s.ac.resetDeclaredRegs
    sb := s.sb.resetDeclaredRegs s.cfg
    hawindowsel := 0
    authdata := 0
    relaxedpriv := s.cfg.relaxedprivReset
    hawindow := .empty }

/-- `reset_dm`: the DM takes its reset state; the harts' own signals survive unless `powerOn`. -/
def resetDm (s : DMPredictor) (powerOn : Bool) : DMPredictor :=
  { s.resetDeclaredRegs with rc := s.rc.resetDm s.params powerOn }

/-- The constructor. -/
def init (p : Params) : DMPredictor :=
  let s : DMPredictor :=
    { params := p
      cfg := {}
      cfgValid := false
      rc := .init
      ac := .init
      sb := .init
      hawindowsel := 0
      authdata := 0
      relaxedpriv := false
      hawindow := .empty
      observedCmdbusy := false }
  s.resetDm true

/-- `set_config`. -/
def setConfig (s : DMPredictor) (c : DeclaredConfig) : DMPredictor :=
  resetDm { s with cfg := c, cfgValid := true, params := c.params } true

/-! ## Writes and read side effects -/

/-- `set_observed_cmdbusy`. -/
def setObservedCmdbusy (s : DMPredictor) (busy : Bool) : DMPredictor := { s with observedCmdbusy := busy }

/-- `_guarded_while_busy`. -/
def guardedWhileBusy (addr : Nat) : Bool :=
  (addr == ADDR_COMMAND || addr == ADDR_ABSTRACTCS || addr == ADDR_ABSTRACTAUTO)
    || (ADDR_DATA0 ≤ addr && addr ≤ ADDR_DATA11)
    || (ADDR_PROGBUF0 ≤ addr && addr ≤ ADDR_PROGBUF15)

/-- `_hawindow_implemented`: the mask bits of window `sel` that have a hart behind them. -/
def hawindowImplemented (s : DMPredictor) (sel : Nat) : Nat :=
  (List.range' (32 * sel) (min s.params.numHarts (32 * (sel + 1)) - 32 * sel)).foldl
    (fun m h => m ||| (1 <<< (h - 32 * sel))) 0

/-- `_write_dmcontrol`. -/
def writeDmcontrol (s : DMPredictor) (value : Nat) : DMPredictor :=
  if !DMCONTROL.dmactive.test value then s.resetDm false
  else
    let st := s.rc.writeActive s.params s.ac value
    { s with rc := st.1, ac := st.2 }

/-- `on_write`. -/
def onWrite (s : DMPredictor) (addr value : Nat) : DMPredictor :=
  let value := value &&& MASK32
  if s.observedCmdbusy && guardedWhileBusy addr then s
  else if isData addr || isProgbuf addr then
    { s with ac := s.ac.writeBuffer s.cfg s.observedCmdbusy addr value }
  else if addr = DMCONTROL.address then s.writeDmcontrol value
  else if addr = ADDR_SBADDRESS1 then { s with sb := { s.sb with sbaddress1 := value } }
  else if addr = ADDR_SBDATA1 then { s with sb := s.sb.writeSbdata1 value }
  else if addr = ADDR_HAWINDOW then
    if s.cfg.hartarrayEnable then
      { s with hawindow := s.hawindow.set s.hawindowsel (value &&& s.hawindowImplemented s.hawindowsel) }
    else s
  else if addr = ADDR_COMMAND then { s with ac := s.ac.writeCommand value }
  else if addr = ADDR_SBCS then { s with sb := s.sb.writeSbcs s.cfg value }
  else if addr = ADDR_SBADDRESS0 then { s with sb := s.sb.writeSbaddress0 s.cfg value }
  else if addr = ADDR_SBDATA0 then { s with sb := s.sb.writeSbdata0 s.cfg value }
  else if addr = ADDR_ABSTRACTAUTO then { s with ac := { s.ac with abstractauto := value } }
  else if addr = ADDR_HAWINDOWSEL then { s with hawindowsel := value &&& 0x7FFF }
  else if addr = ADDR_ABSTRACTCS then
    if DMSTATUS_VERSION_1_0 ≤ s.params.version then { s with relaxedpriv := value.testBit 11 } else s
  else s

/-- `observe_sbdata0_read`. -/
def observeSbdata0Read (s : DMPredictor) : DMPredictor := { s with sb := s.sb.sbdata0ReadEffects s.cfg }

/-- `observe_read`. -/
def observeRead (s : DMPredictor) (addr : Nat) : DMPredictor :=
  let s := if addr = ADDR_SBDATA0 then { s with sb := s.sb.sbdata0ReadEffects s.cfg } else s
  { s with ac := s.ac.observeRead s.cfg s.observedCmdbusy addr }

/-- `sync_observed_hart_signals`. -/
def syncObservedHartSignals (s : DMPredictor) (dmstatusWord : Nat) : DMPredictor :=
  { s with rc := s.rc.syncObservedHartSignals dmstatusWord }

/-! ## Read prediction -/

/-- `_sba_wider_than_32`. -/
def sbaWiderThan32 (s : DMPredictor) : Bool := s.cfg.sbaEnable && (s.cfg.sbaccess64 || s.cfg.sbaccess128)

/-- `has_model`: whether a read of `addr` has a checkable prediction right now. -/
def hasModel (s : DMPredictor) (addr : Nat) : Bool :=
  let c := s.cfg
  if addr = DMCONTROL.address ∨ addr = DMSTATUS.address then true
  else if !s.cfgValid then false
  else if !s.rc.dmactive then false
  else if addr = ADDR_DATA0 then s.ac.data0PendingValid
  else if isData addr && addr - ADDR_DATA0 < c.datacount then
    (s.ac.dataKnown[addr - ADDR_DATA0]?).getD false
  else if addr = ADDR_SBDATA0 then !c.sbaEnable || s.sb.sbdata0PendingValid
  else if addr = ADDR_SBDATA1 then !s.sbaWiderThan32 || s.sb.sbdata1Known
  else if addr = ADDR_SBDATA2 ∨ addr = ADDR_SBDATA3 then !(c.sbaEnable && c.sbaccess128)
  else if addr = ADDR_SBADDRESS2 then !(c.sbaEnable && c.sbasize > 64)
  else if addr = ADDR_SBADDRESS3 then !(c.sbaEnable && c.sbasize > 96)
  else if addr = ADDR_AUTHDATA then !c.authenticationEnable
  else if addr = ADDR_DMCS2 then !c.haltgroupsEnable
  else true

/-- Whether the hart at index `i` is halted. -/
def hartHalted (s : DMPredictor) (i : Nat) : Bool := (s.rc.harts[i]?).any (·.halted)

/-- `_expect_haltsum`. -/
def expectHaltsum (s : DMPredictor) (n : Nat) : Nat :=
  if !s.cfg.haltsumGroupsPresent then 0
  else
    let lo := 5 * n
    (List.range (min s.params.numHarts s.rc.harts.length)).foldl
      (fun word h =>
        if !s.hartHalted h then word
        else if n < 3 && (h >>> (lo + 5)) != (s.rc.hartsel >>> (lo + 5)) then word
        else word ||| (1 <<< ((h >>> lo) &&& 31))) 0

/-- The `haltsum0` word. -/
def expectHaltsum0 (s : DMPredictor) : Nat :=
  (List.range (min (min s.params.numHarts 32) s.rc.harts.length)).foldl
    (fun word i => if s.hartHalted i then word ||| (1 <<< i) else word) 0

/-- The selected harts that are there. -/
def selected (s : DMPredictor) : List HartState := s.rc.selectedIndices.filterMap fun i => s.rc.harts[i]?

/-- `all*`: some hart is selected and every selected hart satisfies `pred`. -/
def allSelected (s : DMPredictor) (pred : HartState → Bool) : Nat :=
  (!s.selected.isEmpty && s.selected.all pred).toNat

/-- `any*`. -/
def anySelected (s : DMPredictor) (pred : HartState → Bool) : Nat := (s.selected.any pred).toNat

/-- `_is_nonexistent`. -/
def isNonexistent (s : DMPredictor) (index : Nat) : Bool := s.params.numHarts ≤ index

/-- The field values `_expect_dmstatus` encodes. -/
def dmstatusValues (s : DMPredictor) : List (Field × Nat) :=
  let nonexistent := s.rc.selectedIndices.map s.isNonexistent
  [(DMSTATUS.ndmresetpending,
      if DMSTATUS_VERSION_1_0 ≤ s.params.version then s.rc.ndmreset.toNat else 0),
    (DMSTATUS.stickyunavail, s.params.stickyunavail.toNat),
    (DMSTATUS.impebreak, s.params.impebreak.toNat),
    (DMSTATUS.allhavereset, s.allSelected (·.havereset)),
    (DMSTATUS.anyhavereset, s.anySelected (·.havereset)),
    (DMSTATUS.allresumeack, s.allSelected (·.resumeAck)),
    (DMSTATUS.anyresumeack, s.anySelected (·.resumeAck)),
    (DMSTATUS.allnonexistent, (!nonexistent.isEmpty && nonexistent.all id).toNat),
    (DMSTATUS.anynonexistent, (nonexistent.any id).toNat),
    (DMSTATUS.allunavail, s.allSelected (·.unavail)),
    (DMSTATUS.anyunavail, s.anySelected (·.unavail)),
    (DMSTATUS.allrunning, s.allSelected (·.running)),
    (DMSTATUS.anyrunning, s.anySelected (·.running)),
    (DMSTATUS.allhalted, s.allSelected (·.halted)),
    (DMSTATUS.anyhalted, s.anySelected (·.halted)),
    (DMSTATUS.authenticated, s.params.authenticated.toNat),
    (DMSTATUS.authbusy, 0),
    (DMSTATUS.hasresethaltreq, s.params.hasresethaltreq.toNat),
    (DMSTATUS.confstrptrvalid, 0),
    (DMSTATUS.version, s.params.version)]

/-- `_expect_dmstatus`. -/
def expectDmstatus (s : DMPredictor) : Nat := Register.encode s.dmstatusValues

/-- `_expect_dmcontrol`. -/
def expectDmcontrol (s : DMPredictor) : Nat :=
  let word := Register.encode
    [(DMCONTROL.dmactive, s.rc.dmactive.toNat),
      (DMCONTROL.ndmreset, s.rc.ndmreset.toNat),
      (DMCONTROL.hasel, s.rc.hasel.toNat),
      (DMCONTROL.hartreset, (s.rc.hartresetLevel && s.params.supportsHartreset).toNat)]
  withHartsel word s.rc.hartsel

/-- The `hartinfo` word. -/
def expectHartinfo (c : DeclaredConfig) : Nat :=
  (((c.nscratch &&& 0xF) <<< 20 ||| c.dataaccess.toNat <<< 16) ||| (c.datasize &&& 0xF) <<< 12)
    ||| (c.dataaddr &&& 0xFFF)

/-- The `abstractcs` word. -/
def expectAbstractcs (s : DMPredictor) : Nat :=
  ((s.cfg.progbufsize &&& 0x1F) <<< 24 ||| s.relaxedpriv.toNat <<< 11) ||| (s.cfg.datacount &&& 0xF)

/-- The `abstractauto` word. -/
def expectAbstractauto (s : DMPredictor) : Nat :=
  if !s.cfg.abstractautoEnable then 0
  else
    let progbuf := (s.ac.abstractauto >>> 16) &&& ((1 <<< s.cfg.progbufsize) - 1)
    let data := (s.ac.abstractauto &&& 0xFFF) &&& ((1 <<< s.cfg.datacount) - 1)
    (progbuf <<< 16 ||| data) &&& MASK32

/-- The `sbcs` word. -/
def expectSbcs (s : DMPredictor) : Nat :=
  let c := s.cfg
  if !c.sbaEnable then 0
  else
    ((((((((((c.sbversion &&& 0x7) <<< 29 ||| s.sb.sbreadonaddr.toNat <<< 20)
      ||| (s.sb.sbaccess &&& 0x7) <<< 17) ||| s.sb.sbautoincrement.toNat <<< 16)
      ||| s.sb.sbreadondata.toNat <<< 15) ||| (c.sbasize &&& 0x7F) <<< 5)
      ||| c.sbaccess128.toNat <<< 4) ||| c.sbaccess64.toNat <<< 3)
      ||| c.sbaccess32.toNat <<< 2) ||| c.sbaccess16.toNat <<< 1) ||| c.sbaccess8.toNat

/-- `predict`: the predicted read value, 0 for every unimplemented register. -/
def predict (s : DMPredictor) (addr : Nat) : Nat :=
  let c := s.cfg
  if isData addr then
    let i := addr - ADDR_DATA0
    if c.datacount ≤ i then 0
    else if i = 0 then s.ac.data0PendingValue else (s.ac.dataQ[i]?).getD 0
  else if isProgbuf addr then
    let i := addr - ADDR_PROGBUF0
    if i < c.progbufsize && c.progbufReadable then (s.ac.progbufQ[i]?).getD 0 else 0
  else if addr = DMCONTROL.address then s.expectDmcontrol
  else if addr = DMSTATUS.address then s.expectDmstatus
  else if addr = ADDR_HARTINFO then expectHartinfo c
  else if addr = ADDR_ABSTRACTCS then s.expectAbstractcs
  else if addr = ADDR_COMMAND then 0
  else if addr = ADDR_ABSTRACTAUTO then s.expectAbstractauto
  else if addr = ADDR_HALTSUM0 then s.expectHaltsum0
  else if addr = ADDR_HALTSUM1 then s.expectHaltsum 1
  else if addr = ADDR_HALTSUM2 then s.expectHaltsum 2
  else if addr = ADDR_HALTSUM3 then s.expectHaltsum 3
  else if addr = ADDR_HAWINDOWSEL then if c.hartarrayEnable then s.hawindowsel &&& 0x7FFF else 0
  else if addr = ADDR_HAWINDOW then if c.hartarrayEnable then s.hawindow.getD s.hawindowsel 0 else 0
  else if addr = ADDR_NEXTDM then c.nextdm &&& MASK32
  else if addr = ADDR_SBCS then s.expectSbcs
  else if addr = ADDR_SBADDRESS0 then if c.sbaEnable then s.sb.sbaddress0 else 0
  else if addr = ADDR_SBADDRESS1 then if c.sbaEnable && c.sbasize > 32 then s.sb.sbaddress1 else 0
  else if addr = ADDR_SBDATA0 then if c.sbaEnable then s.sb.sbdata0PendingValue else 0
  else if addr = ADDR_SBDATA1 then if s.sbaWiderThan32 then s.sb.sbdata1 else 0
  else 0

/-- `predict_mask`: the bits `predict` claims. -/
def predictMask (addr : Nat) : Nat :=
  if addr = ADDR_ABSTRACTCS then 0xFFFF_E8FF
  else if addr = ADDR_SBCS then 0xFF9F_8FFF
  else MASK32

end DMPredictor

/-! ## Inputs and runs -/

/-- The inputs of the model. -/
inductive Input where
  | setConfig (c : DeclaredConfig)
  | resetDm (powerOn : Bool)
  | setObservedCmdbusy (busy : Bool)
  | onWrite (addr value : Nat)
  | observeRead (addr : Nat)
  | observeSbdata0Read
  | syncObservedHartSignals (dmstatusWord : Nat)

/-- One input. -/
def DMPredictor.step (s : DMPredictor) : Input → DMPredictor
  | .setConfig c => s.setConfig c
  | .resetDm powerOn => s.resetDm powerOn
  | .setObservedCmdbusy busy => s.setObservedCmdbusy busy
  | .onWrite addr value => s.onWrite addr value
  | .observeRead addr => s.observeRead addr
  | .observeSbdata0Read => s.observeSbdata0Read
  | .syncObservedHartSignals w => s.syncObservedHartSignals w

/-- The state after a list of inputs. -/
def DMPredictor.run (s : DMPredictor) (is : List Input) : DMPredictor := Runs.run DMPredictor.step s is

/-- A DMI access of the debugger. -/
inductive Dmi where
  | write (addr value : Nat)
  | read (addr : Nat)

namespace Dmi

def addr : Dmi → Nat
  | .write addr _ => addr
  | .read addr => addr

/-- The access absorbed by the model. -/
def apply (s : DMPredictor) : Dmi → DMPredictor
  | .write addr value => s.onWrite addr value
  | .read addr => s.observeRead addr

end Dmi

/-- A freshly constructed model with a declared configuration applied. -/
def DMPredictor.declared (c : DeclaredConfig) : DMPredictor := (DMPredictor.init {}).setConfig c

/-- A model as the test environment starts it: constructed, or constructed and configured. -/
inductive DMPredictor.Booted : DMPredictor → Prop
  | constructed (p : Params) : Booted (.init p)
  | configured (p : Params) (c : DeclaredConfig) : Booted ((DMPredictor.init p).setConfig c)

/-! ## Snapshots -/

/-- One hart of a snapshot. -/
structure HartSnapshot where
  halted : Bool
  running : Bool
  havereset : Bool
  resumeAck : Bool
  haltRequest : Bool
  resetHaltreq : Bool
  unavail : Bool
  nonexistent : Bool
  deriving DecidableEq, Repr

/-- A plain-data copy of the run-control state. -/
structure Snapshot where
  dmactive : Bool
  ndmreset : Bool
  hartsel : Nat
  hasel : Bool
  harts : List HartSnapshot
  deriving DecidableEq, Repr

def HartState.snapshot (h : HartState) : HartSnapshot where
  halted := h.halted
  running := h.running
  havereset := h.havereset
  resumeAck := h.resumeAck
  haltRequest := h.haltRequest
  resetHaltreq := h.resetHaltreq
  unavail := h.unavail
  nonexistent := h.nonexistent

/-- `snapshot`. -/
def DMPredictor.snapshot (s : DMPredictor) : Snapshot where
  dmactive := s.rc.dmactive
  ndmreset := s.rc.ndmreset
  hartsel := s.rc.hartsel
  hasel := s.rc.hasel
  harts := s.rc.harts.map (·.snapshot)

end RiscvDbg

import RiscvDbg.BusMonitor.Axi
import RiscvDbg.BusMonitor.Dmi
import RiscvDbg.Checker.Model
import RiscvDbg.Lib.Matching

/-!
# The correlators of the checker

Model of the two tasks of `dm_checker` (`sv/env/dm_checker.sv`) that compare what was asked for over JTAG with
what appeared further on: `compare_dtm_dmi` with the DMI bus, `compare_dmi_sba` with the System Bus Access
master.  Both keep two queues of at most `CORR_DEPTH` entries and, every microsecond, match them from the head.

* `DtmCorrelator` — `jtag_q`, `bus_q` and the counters; `getDtmTxn`, `getDmiBusTxn`, `compareDtmDmi`.
* `SbaCorrelator` — the latched `sbaddress0`, `dmi_sba_q`, `axi_sba_q` and the counter; `recordDmiSba`,
  `getAxiTxn`, `compareDmiSba`.  The field `pairs` is not in the source: it records the `SBA_MATCH` lines.

The `while` loop of both tasks is `Matching.drain`: it removes the head of the request queue and the entry it
hit, and ends where the head hits nothing.
-/

set_option autoImplicit false

namespace RiscvDbg

def CORR_DEPTH : Nat := 64

/-! ## JTAG and the DMI bus -/

/-- `jtag_evt_t`. -/
structure JtagEvt where
  addr : BitVec 7
  op : BitVec 2
  data : BitVec 32
  t : Nat
  deriving DecidableEq, Repr

/-- The state of `compare_dtm_dmi`. -/
structure DtmCorrelator where
  jtagQ : List JtagEvt := []
  busQ : List DmiTxn := []
  dtmMatched : Nat := 0
  dtmMismatched : Nat := 0
  deriving DecidableEq, Repr

namespace DtmCorrelator

/-- What `get_dtm_txns` queues of a shift: only real accesses cross the DTM. -/
def getDtmTxn (c : DtmCorrelator) (txn : JtagTxn) (time : Nat) : DtmCorrelator :=
  if txn.irVal = JTAG_DMI ∧ (txn.dmiOp = DMI_READ ∨ txn.dmiOp = DMI_WRITE) then
    { c with jtagQ := Matching.push CORR_DEPTH c.jtagQ ⟨txn.dmiAddr, txn.dmiOp, txn.dmiWdata, time⟩ }
  else c

/-- What `get_dmi_bus_txns` queues. -/
def getDmiBusTxn (c : DtmCorrelator) (txn : DmiTxn) : DtmCorrelator :=
  { c with busQ := Matching.push CORR_DEPTH c.busQ txn }

/-- The bus transaction is taken for the request. -/
def accepts (want : JtagEvt) (txn : DmiTxn) : Bool :=
  want.t ≤ txn.tReq && (txn.addr == want.addr && txn.op == want.op)

/-- The `DTM_CHECK` error: the transaction taken for a write carries other data. -/
def corrupted (p : JtagEvt × DmiTxn) : Bool := p.1.op == DMI_WRITE && p.2.wdata != p.1.data

/-- One poll of `compare_dtm_dmi`. -/
def compareDtmDmi (c : DtmCorrelator) : DtmCorrelator :=
  let r := Matching.drain accepts c.jtagQ c.busQ
  { jtagQ := r.1
    busQ := r.2.1
    dtmMatched := c.dtmMatched + r.2.2.countP (!corrupted ·)
    dtmMismatched := c.dtmMismatched + r.2.2.countP corrupted }

end DtmCorrelator

/-! ## DMI and the System Bus Access master -/

/-- `sba_evt_t`. -/
structure SbaEvt where
  addr : BitVec 64
  data : BitVec 64
  isWrite : Bool
  t : Nat
  deriving DecidableEq, Repr

/-- The state of `compare_dmi_sba`. -/
structure SbaCorrelator where
  sbaddress0 : BitVec 32 := 0
  dmiSbaQ : List SbaEvt := []
  axiSbaQ : List SbaEvt := []
  sbaMatched : Nat := 0
  pairs : List (SbaEvt × SbaEvt) := []
  deriving DecidableEq, Repr

namespace SbaCorrelator

/-- The bus write that a write of `sbdata0` is taken to ask for. -/
def request (c : SbaCorrelator) (txn : JtagTxn) (time : Nat) : SbaEvt :=
  ⟨c.sbaddress0.setWidth 64, txn.dmiWdata.setWidth 64, true, time⟩

/-- `record_dmi_sba`. -/
def recordDmiSba (c : SbaCorrelator) (txn : JtagTxn) (time : Nat) : SbaCorrelator :=
  if txn.dmiOp ≠ DMI_WRITE then c
  else if txn.dmiAddr = DM_ADDR_SBADDRESS0 then { c with sbaddress0 := txn.dmiWdata }
  else if txn.dmiAddr = DM_ADDR_SBDATA0 then
    { c with dmiSbaQ := Matching.push CORR_DEPTH c.dmiSbaQ (c.request txn time) }
  else c

/-- The entry `get_axi_txns` makes of a bus transaction. -/
def axiEvt {addrW dataW idW : Nat} (txn : AxiTxn addrW dataW idW) (time : Nat) : SbaEvt where
  addr := txn.addr.setWidth 64
  data := match txn.data with
    | [] => 0
    | d :: _ => d.setWidth 64
  isWrite := txn.dir == .write
  t := time

/-- What `get_axi_txns` queues. -/
def getAxiTxn {addrW dataW idW : Nat} (c : SbaCorrelator) (txn : AxiTxn addrW dataW idW) (time : Nat) :
    SbaCorrelator :=
  { c with axiSbaQ := Matching.push CORR_DEPTH c.axiSbaQ (axiEvt txn time) }

/-- The bus transaction is taken for the request. -/
def accepts (want e : SbaEvt) : Bool := e.addr == want.addr && (e.isWrite == want.isWrite && want.t ≤ e.t)

/-- One poll of `compare_dmi_sba`. -/
def compareDmiSba (c : SbaCorrelator) : SbaCorrelator :=
  let r := Matching.drain accepts c.dmiSbaQ c.axiSbaQ
  { c with
    dmiSbaQ := r.1
    axiSbaQ := r.2.1
    sbaMatched := c.sbaMatched + r.2.2.length
    pairs := c.pairs ++ r.2.2 }

end SbaCorrelator

end RiscvDbg

import Mathlib.Algebra.Group.Nat.Defs
import RiscvDbg.Lib.FourState

/-!
# JTAG transactions

Model of `jtag_txn_c` (`sv/agents/jtag/jtag_txn.sv`), of the encodings of `dm_defines_pkg.sv` it is
written in, and of the two records `jtag_monitor` broadcasts.

* `JtagTxn` — a transaction, as a sequence hands it to the driver and as the monitor reports it.
* `JtagTxn.packDmi`, `JtagTxn.unpackDmi` — the DMI fields in the data register.
* `emitDmiTxn`, `emitDtmcsTxn` — the record of one completed shift of the data register.

What is driven on TDI is known; what comes back on TDO may be unknown, and so may everything a record
leaves unassigned.
-/

set_option autoImplicit false

namespace RiscvDbg

/-! ## Encodings -/

def JTAG_IDCODE : BitVec 5 := 0x01#5
def JTAG_DTMCS : BitVec 5 := 0x10#5
def JTAG_DMI : BitVec 5 := 0x11#5

def DMI_NOP : BitVec 2 := 0#2
def DMI_READ : BitVec 2 := 1#2
def DMI_WRITE : BitVec 2 := 2#2

def DMI_STAT_SUCCESS : BitVec 2 := 0#2
def DMI_STAT_FAILED : BitVec 2 := 2#2
def DMI_STAT_BUSY : BitVec 2 := 3#2

/-! ## Transactions -/

/-- `txn_phase_e`. -/
inductive TxnPhase where
  | irOnly
  | drOnly
  | irThenDr
  | tapReset
  | tmsWalk
  deriving DecidableEq, Repr

/-- `jtag_txn_c`.  The request half is known; the response half starts unassigned. -/
structure JtagTxn where
  irVal : BitVec 5 := 0
  irLen : Nat := 5
  drDataIn : BitVec 64 := 0
  drDataOut : FourState 64 := .x
  drLen : Nat := 0
  dmiAddr : BitVec 7 := 0
  dmiWdata : BitVec 32 := 0
  dmiOp : BitVec 2 := 0
  dmiRdata : FourState 32 := .x
  dmiStatus : FourState 2 := .x
  phase : TxnPhase := .irOnly
  pause : Bool := false
  deriving DecidableEq, Repr

namespace JtagTxn

/-- `pack_dmi`. -/
def packDmi (t : JtagTxn) : JtagTxn :=
  { t with
    drDataIn := (0#23 ++ t.dmiAddr ++ t.dmiWdata ++ t.dmiOp : BitVec 64)
    drLen := 41
    irVal := JTAG_DMI }

/-- `unpack_dmi`. -/
def unpackDmi (t : JtagTxn) : JtagTxn :=
  { t with dmiStatus := t.drDataOut.extract 0 2, dmiRdata := t.drDataOut.extract 2 32 }

end JtagTxn

/-! ## Records of the monitor -/

/-- `64 - n_bits` as the shift operator reads it: 32 bits, without a sign. -/
def alignShift (nBits : Nat) : Nat := (2 ^ 32 + 64 - nBits) % 2 ^ 32

theorem alignShift_eq {nBits : Nat} (h₀ : 1 ≤ nBits) (h : nBits ≤ 64) : alignShift nBits = 64 - nBits := by
  unfold alignShift
  omega

/-- The alignment leaves the bits of the shift only. -/
theorem le_alignShift_add (nBits : Nat) : 64 ≤ alignShift nBits + nBits := by
  unfold alignShift
  omega

/-- What both records have: the two shift registers, aligned to the right. -/
def emitTxn (ir : BitVec 5) (drRaw : BitVec 64) (drOutRaw : FourState 64) (nBits : Nat) : JtagTxn where
  drDataIn := drRaw >>> alignShift nBits
  drDataOut := drOutRaw.shiftRight (alignShift nBits)
  drLen := nBits
  irVal := ir
  phase := .drOnly

/-- `emit_dtmcs_txn`: no DMI field but the operation is assigned. -/
def emitDtmcsTxn (drRaw : BitVec 64) (drOutRaw : FourState 64) (nBits : Nat) : JtagTxn :=
  { emitTxn JTAG_DTMCS drRaw drOutRaw nBits with dmiOp := 0#2 }

/-- `emit_dmi_txn`: this shift's own request, and the response to the one before. -/
def emitDmiTxn (drRaw : BitVec 64) (drOutRaw : FourState 64) (nBits : Nat) : JtagTxn :=
  let t := emitTxn JTAG_DMI drRaw drOutRaw nBits
  JtagTxn.unpackDmi
    { t with
      dmiOp := t.drDataIn.extractLsb' 0 2
      dmiWdata := t.drDataIn.extractLsb' 2 32
      dmiAddr := t.drDataIn.extractLsb' 34 7 }

/-- The records the monitor broadcasts. -/
inductive Monitored : JtagTxn → Prop
  | dmi (drRaw : BitVec 64) (drOutRaw : FourState 64) (nBits : Nat) :
      Monitored (emitDmiTxn drRaw drOutRaw nBits)
  | dtmcs (drRaw : BitVec 64) (drOutRaw : FourState 64) (nBits : Nat) :
      Monitored (emitDtmcsTxn drRaw drOutRaw nBits)

/-- A record is a DMI shift, or a `dtmcs` shift without operation and status. -/
theorem Monitored.cases {t : JtagTxn} (h : Monitored t) :
    t.irVal = JTAG_DMI ∨ (t.irVal = JTAG_DTMCS ∧ t.dmiOp = DMI_NOP ∧ t.dmiStatus = .x) := by
  cases h with
  | dmi drRaw drOutRaw nBits => exact Or.inl rfl
  | dtmcs drRaw drOutRaw nBits => exact Or.inr ⟨rfl, rfl, rfl⟩

end RiscvDbg

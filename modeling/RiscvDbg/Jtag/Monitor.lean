import RiscvDbg.Jtag.Tap
import RiscvDbg.Lib.ShiftRegister

/-!
# The JTAG monitor

Model of `jtag_monitor` (`sv/agents/jtag/jtag_monitor.sv`), two processes on the two edges of TCK.

* `JtagMonitor` — the members both processes share, the variables of `monitor_tap`, and the records
  broadcast so far.
* `posedge` — `monitor_tap`: TAP state, TDI and the records.
* `negedge` — `sample_tdo`: TDO.
* `clock` — one period of TCK.

The two edges of a period are seen in this order and neither process blocks the other.  In the last
period of the initial reset the sampler may find `trst_n` released already; no shift is marked and
`dr_out_reg` is 0 there, so that it does the same.
-/

set_option autoImplicit false

namespace RiscvDbg

open TapState

/-- `jtag_monitor`. -/
structure JtagMonitor where
  drOutReg : FourState 64 := .ofBits 0
  drShiftActive : Bool := false
  drReset : Bool := false
  state : TapState := testLogicReset
  irReg : BitVec 5 := 0
  currIr : BitVec 5 := 0
  irBit : Nat := 0
  drReg : BitVec 64 := 0
  drBit : Nat := 0
  records : List JtagTxn := []
  deriving DecidableEq, Repr

namespace JtagMonitor

variable (m : JtagMonitor) (c : Tck)

/-- The `trst_n` branch of `monitor_tap`. -/
def reset : JtagMonitor :=
  { m with
    state := testLogicReset, irReg := 0, currIr := 0, drReg := 0, irBit := 0, drBit := 0,
    drShiftActive := false, drReset := false }

/-- What `monitor_tap` broadcasts in Update-DR. -/
def emitted : List JtagTxn :=
  if m.currIr = 0x11#5 then [emitDmiTxn m.drReg m.drOutReg m.drBit]
  else if m.currIr = 0x10#5 then [emitDtmcsTxn m.drReg m.drOutReg m.drBit]
  else []

/-- The actions of `monitor_tap` in the state it is in. -/
def capture : JtagMonitor :=
  match m.state with
  | captureIr => { m with irBit := 0 }
  | captureDr => { m with drBit := 0 }
  | shiftIr => { m with irReg := ShiftRegister.shiftIn m.irReg c.tdi, irBit := m.irBit + 1 }
  | shiftDr => { m with drReg := ShiftRegister.shiftIn m.drReg c.tdi, drBit := m.drBit + 1 }
  | updateIr => { m with currIr := m.irReg }
  | updateDr => { m with records := m.records ++ m.emitted, drReg := 0, drBit := 0, drReset := true }
  | testLogicReset => { m with currIr := JTAG_IDCODE }
  | _ => m

/-- The body of `monitor_tap`'s loop. -/
def posedge : JtagMonitor :=
  if !c.trstN then m.reset
  else
    let m := { m with drShiftActive := m.state == shiftDr, drReset := false }
    let m := m.capture c
    { m with state := tapNextState m.state c.tms }

/-- The body of `sample_tdo`'s loop. -/
def negedge : JtagMonitor :=
  if !c.trstN then { m with drOutReg := .ofBits 0 }
  else if m.drReset then { m with drOutReg := .ofBits 0 }
  else if m.drShiftActive then { m with drOutReg := m.drOutReg.shiftIn c.tdo }
  else m

/-- One period of TCK. -/
def clock : JtagMonitor := (m.posedge c).negedge c

/-! ## The TAP state -/

theorem negedge_state : (m.negedge c).state = m.state := by
  unfold negedge
  split_ifs <;> rfl

theorem clock_state : (m.clock c).state = tapClock m.state c := by
  rw [clock, negedge_state, posedge, tapClock]
  cases c.trstN with
  | false => rfl
  | true => cases m.state <;> simp [capture]

/-! ## One period, by the state it starts in

`data` hides what every period sets anew, and the counter of IR bits, which nothing reads. -/

/-- The monitor without the TAP state, the marks for the sampler and the counter of IR bits. -/
def data : JtagMonitor :=
  { m with state := testLogicReset, drShiftActive := false, drReset := false, irBit := 0 }

/-- Two monitors with the same registers, instruction and records. -/
structure SameData (m m' : JtagMonitor) : Prop where
  irReg : m.irReg = m'.irReg
  currIr : m.currIr = m'.currIr
  drReg : m.drReg = m'.drReg
  drBit : m.drBit = m'.drBit
  drOutReg : m.drOutReg = m'.drOutReg
  records : m.records = m'.records

theorem SameData.of_data {m m' : JtagMonitor} (h : m.data = m'.data) : SameData m m' := by
  simp only [data, JtagMonitor.mk.injEq, true_and] at h
  obtain ⟨hout, hir, hcurr, hdr, hbit, hrec⟩ := h
  exact ⟨hir, hcurr, hdr, hbit, hout, hrec⟩

/-- The states in which `monitor_tap` does nothing that lasts. -/
def quiet (s : TapState) : Bool :=
  match s with
  | captureDr | shiftDr | updateDr | shiftIr | updateIr | testLogicReset => false
  | _ => true

variable {m c}

theorem data_clock_quiet (hc : c.trstN = true) (hs : quiet m.state = true) : (m.clock c).data = m.data := by
  cases h : m.state <;> simp [quiet, h] at hs <;>
    simp [clock, posedge, negedge, capture, data, hc, h]

theorem data_clock_captureDr (hc : c.trstN = true) (hs : m.state = captureDr) :
    (m.clock c).data = { m.data with drBit := 0 } := by
  simp [clock, posedge, negedge, capture, data, hc, hs]

theorem data_clock_shiftDr (hc : c.trstN = true) (hs : m.state = shiftDr) :
    (m.clock c).data =
      { m.data with
        drReg := ShiftRegister.shiftIn m.drReg c.tdi, drBit := m.drBit + 1,
        drOutReg := m.drOutReg.shiftIn c.tdo } := by
  simp [clock, posedge, negedge, capture, data, hc, hs]

theorem data_clock_updateDr (hc : c.trstN = true) (hs : m.state = updateDr) :
    (m.clock c).data =
      { m.data with
        records := m.records ++ m.emitted, drReg := 0, drBit := 0, drOutReg := .ofBits 0 } := by
  simp [clock, posedge, negedge, capture, data, emitted, hc, hs]

theorem data_clock_shiftIr (hc : c.trstN = true) (hs : m.state = shiftIr) :
    (m.clock c).data = { m.data with irReg := ShiftRegister.shiftIn m.irReg c.tdi } := by
  simp [clock, posedge, negedge, capture, data, hc, hs]

theorem data_clock_updateIr (hc : c.trstN = true) (hs : m.state = updateIr) :
    (m.clock c).data = { m.data with currIr := m.irReg } := by
  simp [clock, posedge, negedge, capture, data, hc, hs]

theorem data_clock_testLogicReset (hc : c.trstN = true) (hs : m.state = testLogicReset) :
    (m.clock c).data = { m.data with currIr := JTAG_IDCODE } := by
  simp [clock, posedge, negedge, capture, data, hc, hs]

end JtagMonitor

end RiscvDbg

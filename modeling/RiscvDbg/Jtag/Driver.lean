import RiscvDbg.Jtag.Tap
import RiscvDbg.Lib.ShiftRegister

/-!
# The JTAG driver

Model of `jtag_driver` (`sv/agents/jtag/jtag_driver.sv`): what `run_phase` puts on the wires for a list
of transactions, and what it captures from TDO.

* `JtagDriver` — the driver's TAP state, its `trst_n`, and every period of TCK it has driven so far.
* `driveBit` — one period; TDO is the parameter `tdo`, the bit that the falling edge finds in each
  period.
* `driveIr`, `driveDr`, `drivePause`, `driveTapReset`, `driveTmsWalk` — the tasks.
* `driveTxn`, `driveAll` — one transaction and a list of them, with the filled-in responses.

The delays between the edges do not appear: the order of the edges and what the wires carry at each is
all that the monitor can see.
-/

set_option autoImplicit false

namespace RiscvDbg

open TapState

/-- `jtag_driver`.  `cycles` and `states` record what it has driven: the wires in each period, and
`tap_state` after it, oldest first. -/
structure JtagDriver where
  tapState : TapState
  trstN : Bool
  cycles : List Tck
  states : List TapState

namespace JtagDriver

variable (tdo : Nat → FourState 1) (d : JtagDriver)

/-- The wires of the next period. -/
def wires (tms tdi : Bool) : Tck := ⟨d.trstN, tms, tdi, tdo d.cycles.length⟩

/-- `drive_bit_notdo`: one period of TCK. -/
def driveBitNotdo (tms tdi : Bool) : JtagDriver :=
  { d with
    tapState := tapNextState d.tapState tms
    cycles := d.cycles ++ [d.wires tdo tms tdi]
    states := d.states ++ [tapNextState d.tapState tms] }

/-- `drive_bit`: the same, with TDO as the falling edge finds it. -/
def driveBit (tms tdi : Bool) : FourState 1 × JtagDriver :=
  (tdo d.cycles.length, d.driveBitNotdo tdo tms tdi)

/-- `drive_bit_notdo`, as often as there are bits. -/
def driveBits (tms : List Bool) (tdi : Bool) : JtagDriver :=
  tms.foldl (fun d b => d.driveBitNotdo tdo b tdi) d

/-- `run_phase` up to the first transaction. -/
def initialReset : JtagDriver :=
  let d : JtagDriver := ⟨testLogicReset, false, [], []⟩
  let d := d.driveBits tdo (List.replicate 5 true) false
  let d := { d with trstN := true }
  let d := d.driveBitNotdo tdo false false
  { d with tapState := runTestIdle }

/-- `drive_tap_reset`. -/
def driveTapReset : JtagDriver :=
  (d.driveBits tdo (List.replicate 5 true) false).driveBitNotdo tdo false false

/-- `drive_tms_walk`. -/
def driveTmsWalk (txn : JtagTxn) : JtagDriver :=
  d.driveBits tdo ((List.range txn.drLen).map txn.drDataIn.getLsbD) true

/-- `drive_pause`: Pause, one clock held in Pause, Exit2. -/
def drivePause : JtagDriver := d.driveBits tdo [false, false, true] false

/-- `if (txn.pause) drive_pause()`, Update, Run-Test/Idle. -/
def driveUpdate (pause : Bool) : JtagDriver :=
  (if pause then d.drivePause tdo else d).driveBits tdo [true, false] false

/-- Iteration `i` of the loop of `drive_ir`. -/
def driveIrBit (txn : JtagTxn) (i : Nat) : JtagDriver :=
  d.driveBitNotdo tdo (i == txn.irLen - 1) (txn.irVal.getLsbD i)

/-- `drive_ir`. -/
def driveIr (txn : JtagTxn) : JtagDriver :=
  let d := d.driveBits tdo [true, true, false, false] false
  let d := (List.range txn.irLen).foldl (fun d i => d.driveIrBit tdo txn i) d
  d.driveUpdate tdo txn.pause

/-- Iteration `i` of the loop of `drive_dr`, with `dr_data_out` as collected so far. -/
def driveDrBit (txn : JtagTxn) (p : FourState 64 × JtagDriver) (i : Nat) : FourState 64 × JtagDriver :=
  let (tdoBit, d) := p.2.driveBit tdo (i == txn.drLen - 1) (txn.drDataIn.getLsbD i)
  (p.1.setBit i tdoBit, d)

/-- `drive_dr`; the transaction comes back with what was captured. -/
def driveDr (txn : JtagTxn) : JtagTxn × JtagDriver :=
  let d := d.driveBits tdo [true, false, false] false
  let (out, d) := (List.range txn.drLen).foldl (driveDrBit tdo txn) (.ofBits 0, d)
  (JtagTxn.unpackDmi { txn with drDataOut := out }, d.driveUpdate tdo txn.pause)

/-- `drive_txn`. -/
def driveTxn (txn : JtagTxn) : JtagTxn × JtagDriver :=
  match txn.phase with
  | .irOnly => (txn, d.driveIr tdo txn)
  | .drOnly => d.driveDr tdo txn
  | .irThenDr => (d.driveIr tdo txn).driveDr tdo txn
  | .tapReset => (txn, d.driveTapReset tdo)
  | .tmsWalk => (txn, d.driveTmsWalk tdo txn)

/-- The loop of `run_phase`: the responses, in order, and the driver after the last transaction. -/
def driveAll : JtagDriver → List JtagTxn → List JtagTxn × JtagDriver
  | d, [] => ([], d)
  | d, txn :: txns =>
    let (rsp, d) := d.driveTxn tdo txn
    let (rsps, d) := driveAll d txns
    (rsp :: rsps, d)

end JtagDriver

end RiscvDbg

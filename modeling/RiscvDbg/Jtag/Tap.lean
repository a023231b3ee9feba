import RiscvDbg.Jtag.Records
import RiscvDbg.Lib.Runs

/-!
# The TAP controller and the JTAG wires

Model of `sv/model/types.sv` and of what `jtag_if.sv` shows in one period of TCK.

* `TapState`, `tapNextState` — the sixteen states and the next-state function the driver and the
  monitor share.
* `Tck` — the wires of one period: `tms` and `tdi` are set before the rising edge and hold to the end
  of the period, `tdo` is what the falling edge finds, known or not.
* `tapClock` — the state a TAP is in after one period: `tap_next_state`, or Test-Logic-Reset while
  `trst_n` is low.
-/

set_option autoImplicit false

namespace RiscvDbg

/-- `tap_state_e`. -/
inductive TapState where
  | testLogicReset
  | runTestIdle
  | selectDrScan
  | captureDr
  | shiftDr
  | exit1Dr
  | pauseDr
  | exit2Dr
  | updateDr
  | selectIrScan
  | captureIr
  | shiftIr
  | exit1Ir
  | pauseIr
  | exit2Ir
  | updateIr
  deriving DecidableEq, Repr

open TapState

/-- `tap_next_state`. -/
def tapNextState (curr : TapState) (tms : Bool) : TapState :=
  match curr with
  | testLogicReset => if tms then testLogicReset else runTestIdle
  | runTestIdle => if tms then selectDrScan else runTestIdle
  | selectDrScan => if tms then selectIrScan else captureDr
  | captureDr => if tms then exit1Dr else shiftDr
  | shiftDr => if tms then exit1Dr else shiftDr
  | exit1Dr => if tms then updateDr else pauseDr
  | pauseDr => if tms then exit2Dr else pauseDr
  | exit2Dr => if tms then updateDr else shiftDr
  | updateDr => if tms then selectDrScan else runTestIdle
  | selectIrScan => if tms then testLogicReset else captureIr
  | captureIr => if tms then exit1Ir else shiftIr
  | shiftIr => if tms then exit1Ir else shiftIr
  | exit1Ir => if tms then updateIr else pauseIr
  | pauseIr => if tms then exit2Ir else pauseIr
  | exit2Ir => if tms then updateIr else shiftIr
  | updateIr => if tms then selectDrScan else runTestIdle

/-- Five clocks with `tms` high reset the TAP from any state. -/
theorem tapNextState_five_ones (s : TapState) :
    Runs.run tapNextState s (List.replicate 5 true) = testLogicReset := by
  cases s <;> rfl

/-- The wires in one period of TCK. -/
structure Tck where
  trstN : Bool
  tms : Bool
  tdi : Bool
  tdo : FourState 1
  deriving DecidableEq, Repr

/-- The state of a TAP after one period. -/
def tapClock (s : TapState) (c : Tck) : TapState :=
  if c.trstN then tapNextState s c.tms else testLogicReset

end RiscvDbg

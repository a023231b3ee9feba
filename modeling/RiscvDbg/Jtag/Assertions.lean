import RiscvDbg.Jtag.Tap
import RiscvDbg.Lib.Latches
import RiscvDbg.Lib.ShiftRegister

/-!
# The protocol assertions on the JTAG pins

Model of `dmi_assertions` (`sv/assertions/dmi_assertions.sv`), which rebuilds the TAP, the DMI scans and the
sticky status from the pins and checks them.

* `PinEvent` — what the module is sensitive to: a rising edge of TCK, or the falling edge of `trst_n`.
* `DmiAssertions` — its registers; `step` — one event.
* `DmiCheck`, `fails` — the assertions, and whether one of them fires at an event.
* `DmiCover`, `covers` — the cover properties.
* `PinLog` — the same pins read bit by bit: the scan in progress and the completed ones, with nothing cut to
  the width of a register.
* `run_eq_checker` — after every list of events the registers are a function of that reading.
* `no_overlapping_dr_scan` — what follows for the three checks of the shape of a scan.

A concurrent assertion is evaluated on what stood before the edge and is disabled while `trst_n` is low.  TDI
is driven, so its bits are known; TDO may be unknown.
-/

set_option autoImplicit false

namespace RiscvDbg

open TapState

/-! ## The module -/

def DMI_OP_RESERVED : BitVec 2 := 3#2
def DMI_STAT_RESERVED : BitVec 2 := 1#2
def DTMCS_DMIRESET_BIT : Nat := 16
def DTMCS_DTMHARDRESET_BIT : Nat := 17

/-- A rising edge of TCK, with the wires of its period and TDO as the edge finds it, or `trst_n` falling. -/
inductive PinEvent where
  | posedge (c : Tck) (tdo : FourState 1)
  | trstFalls
  deriving DecidableEq, Repr

/-- The registers of `dmi_assertions`, as `trst_n` leaves them. -/
@[ext] structure DmiAssertions where
  state : TapState := testLogicReset
  irShift : BitVec 5 := 0
  currIr : BitVec 5 := 0x01#5
  drIn : BitVec 41 := 0
  drOut : FourState 41 := .ofBits 0
  drBits : BitVec 32 := 0
  dmiScanOpen : Bool := false
  stickyValid : Bool := false
  stickyStatus : BitVec 2 := 0
  deriving DecidableEq, Repr

namespace DmiAssertions

variable (a : DmiAssertions)

def isDmiIr : Bool := a.currIr == JTAG_DMI

def isDtmcsIr : Bool := a.currIr == JTAG_DTMCS

def dmiOpIn : BitVec 2 := a.drIn.extractLsb' 0 2

/-- `dr_in_aligned`; the width minus the count has 32 bits and no sign. -/
def drInAligned : BitVec 41 := if a.drBits == 0 then 0 else a.drIn >>> (41#32 - a.drBits).toNat

def dmiStatusOut : FourState 2 := a.drOut.extract 0 2

def dmiUpdate : Bool := a.state == updateDr && a.isDmiIr && a.drBits != 0

def dtmcsUpdate : Bool := a.state == updateDr && a.isDtmcsIr && a.drBits != 0

/-- The two bits of `dtmcs` that clear the sticky status. -/
def dtmcsClears : Bool :=
  a.drInAligned.getLsbD DTMCS_DMIRESET_BIT || a.drInAligned.getLsbD DTMCS_DTMHARDRESET_BIT

/-- `TAP_UPDATE_DR`.  A comparison with an unknown bit in it is not true. -/
def update : DmiAssertions :=
  let failed := a.dmiStatusOut.caseEq DMI_STAT_FAILED || a.dmiStatusOut.caseEq DMI_STAT_BUSY
  let a := { a with dmiScanOpen := false }
  if a.isDmiIr && a.drBits != 0 && failed then
    { a with stickyValid := true, stickyStatus := a.dmiStatusOut.value }
  else if a.isDtmcsIr && a.drBits != 0 && a.dtmcsClears then
    { a with stickyValid := false, stickyStatus := 0 }
  else a

/-- The `case` over the state. -/
def act (tdi : Bool) (tdo : FourState 1) : DmiAssertions :=
  match a.state with
  | testLogicReset => { a with currIr := 0x01#5 }
  | captureIr => { a with irShift := 0 }
  | shiftIr => { a with irShift := ShiftRegister.shiftIn a.irShift tdi }
  | updateIr => { a with currIr := a.irShift }
  | captureDr => { a with drIn := 0, drOut := .ofBits 0, drBits := 0 }
  | shiftDr =>
    { a with
      drIn := ShiftRegister.shiftIn a.drIn tdi, drOut := a.drOut.shiftIn tdo, drBits := a.drBits + 1,
      dmiScanOpen := a.dmiScanOpen || a.isDmiIr }
  | updateDr => a.update
  | _ => a

/-- The `always_ff` block. -/
def step : PinEvent → DmiAssertions
  | .trstFalls => {}
  | .posedge c tdo =>
    if !c.trstN then {} else { a.act c.tdi tdo with state := tapNextState a.state c.tms }

end DmiAssertions

/-- The assertions. -/
inductive DmiCheck where
  | opLegal
  | statusLegal
  | stickyPersists
  | noOverlappingScan
  | notAbortedByTrst
  | scanLength
  deriving DecidableEq, Repr

/-- The cover properties. -/
inductive DmiCover where
  | dmiresetClearsSticky
  | scanAbandoned
  | op (op : BitVec 2)
  | busy
  | failed
  deriving DecidableEq, Repr

namespace DmiAssertions

variable (a : DmiAssertions)

/-- Whether the assertion `k` fires at the event.  The one on `trst_n` is immediate; the others are sampled at
a rising edge of TCK. -/
def fails (e : PinEvent) (k : DmiCheck) : Bool :=
  match e with
  | .trstFalls => k == .notAbortedByTrst && a.dmiScanOpen
  | .posedge c _ =>
    c.trstN &&
      match k with
      | .opLegal => a.dmiUpdate && a.dmiOpIn == DMI_OP_RESERVED
      | .statusLegal => a.dmiUpdate && !a.dmiStatusOut.ne DMI_STAT_RESERVED
      | .stickyPersists => a.dmiUpdate && a.stickyValid && !a.dmiStatusOut.caseEq a.stickyStatus
      | .noOverlappingScan => a.state == captureDr && a.dmiScanOpen
      | .notAbortedByTrst => false
      | .scanLength => a.dmiUpdate && a.drBits != 41

/-- Whether the cover property `k` is hit at the event. -/
def covers (e : PinEvent) (k : DmiCover) : Bool :=
  match e with
  | .trstFalls => false
  | .posedge c _ =>
    c.trstN &&
      match k with
      | .dmiresetClearsSticky => a.dtmcsUpdate && a.dtmcsClears && a.stickyValid
      | .scanAbandoned => a.state == captureDr && a.dmiScanOpen
      | .op op => a.dmiUpdate && a.dmiOpIn == op
      | .busy => a.dmiUpdate && a.dmiStatusOut.caseEq DMI_STAT_BUSY
      | .failed => a.dmiUpdate && a.dmiStatusOut.caseEq DMI_STAT_FAILED

end DmiAssertions

/-! ## The pins, bit by bit -/

/-- A scan of the data register: the instruction it found and the bits on TDI and TDO, first bit first. -/
structure DrScan where
  ir : BitVec 5
  bits : List (Bool × FourState 1)
  deriving DecidableEq, Repr

namespace DrScan

variable (s : DrScan)

/-- The scan as the registers of the module have it in Update-DR. -/
def registers : DmiAssertions where
  currIr := s.ir
  drIn := ShiftRegister.fill (s.bits.map Prod.fst)
  drOut := FourState.fill (s.bits.map Prod.snd)
  drBits := BitVec.ofNat 32 s.bits.length

/-- Whether the scan starts a DMI operation. -/
def isDmi : Bool := s.registers.isDmiIr && s.registers.drBits != 0

/-- The status a DMI scan reports if it is a failure. -/
def failure : Option (BitVec 2) :=
  if s.isDmi && (s.registers.dmiStatusOut.caseEq DMI_STAT_FAILED || s.registers.dmiStatusOut.caseEq DMI_STAT_BUSY)
  then some s.registers.dmiStatusOut.value else none

/-- Whether the scan writes `dmireset` or `dtmhardreset`. -/
def clears : Bool := s.registers.isDtmcsIr && s.registers.drBits != 0 && s.registers.dtmcsClears

end DrScan

/-- What a reading of the pins keeps: a completed scan, or a reset. -/
inductive PinEntry where
  | scan (s : DrScan)
  | trst
  deriving DecidableEq, Repr

namespace PinEntry

/-- The failing status an entry reports. -/
def failure : PinEntry → Option (BitVec 2)
  | .scan s => s.failure
  | .trst => none

/-- Whether an entry clears the sticky status. -/
def clears : PinEntry → Bool
  | .scan s => s.clears
  | .trst => true

end PinEntry

/-- The TAP, the instruction, the bits shifted since the last Capture-IR and Capture-DR, and everything that
has been completed. -/
structure PinLog where
  state : TapState := testLogicReset
  ir : BitVec 5 := JTAG_IDCODE
  irBits : List Bool := []
  drBits : List (Bool × FourState 1) := []
  entries : List PinEntry := []
  deriving DecidableEq, Repr

namespace PinLog

variable (l : PinLog)

/-- What a period adds in the state it starts in. -/
def act (tdi : Bool) (tdo : FourState 1) : PinLog :=
  match l.state with
  | testLogicReset => { l with ir := JTAG_IDCODE }
  | captureIr => { l with irBits := [] }
  | shiftIr => { l with irBits := l.irBits ++ [tdi] }
  | updateIr => { l with ir := ShiftRegister.fill l.irBits }
  | captureDr => { l with drBits := [] }
  | shiftDr => { l with drBits := l.drBits ++ [(tdi, tdo)] }
  | updateDr => { l with entries := l.entries ++ [.scan ⟨l.ir, l.drBits⟩] }
  | _ => l

/-- A reset loses the scan in progress. -/
def reset : PinLog := { entries := l.entries ++ [.trst] }

def step : PinEvent → PinLog
  | .trstFalls => l.reset
  | .posedge c tdo => if !c.trstN then l.reset else { l.act c.tdi tdo with state := tapNextState l.state c.tms }

/-- The states from the first Shift-DR to Update-DR. -/
def scanning (s : TapState) : Bool :=
  match s with
  | shiftDr | exit1Dr | pauseDr | exit2Dr | updateDr => true
  | _ => false

/-- A DMI scan has begun and has not been completed. -/
def midScan : Bool := scanning l.state && l.ir == JTAG_DMI && !l.drBits.isEmpty

/-- The sticky status: the last failure that nothing has cleared. -/
def sticky : Option (BitVec 2) := Latches.value PinEntry.failure PinEntry.clears l.entries

/-- The registers of the module. -/
def checker : DmiAssertions :=
  { (⟨l.ir, l.drBits⟩ : DrScan).registers with
    state := l.state
    irShift := ShiftRegister.fill l.irBits
    dmiScanOpen := l.midScan
    stickyValid := l.sticky.isSome
    stickyStatus := l.sticky.getD 0 }

/-! ## The registers are a function of the reading -/

/-- The sticky status once the scan in progress is completed. -/
def stickyUpdated : Option (BitVec 2) :=
  Latches.latch PinEntry.failure PinEntry.clears l.sticky (.scan ⟨l.ir, l.drBits⟩)

/-- In Update-DR the module does to the sticky status what the entry of the scan does. -/
theorem checker_update :
    l.checker.update =
      { l.checker with
        dmiScanOpen := false
        stickyValid := l.stickyUpdated.isSome
        stickyStatus := l.stickyUpdated.getD 0 } := by
  let s : DrScan := ⟨l.ir, l.drBits⟩
  have hfail : (l.checker.isDmiIr && l.checker.drBits != 0 &&
      (l.checker.dmiStatusOut.caseEq DMI_STAT_FAILED || l.checker.dmiStatusOut.caseEq DMI_STAT_BUSY)) =
      s.failure.isSome := by
    change (s.isDmi && _) = _
    rw [DrScan.failure]
    split_ifs with h
    · exact h
    · exact Bool.eq_false_iff.mpr h
  have hclear : (l.checker.isDtmcsIr && l.checker.drBits != 0 && l.checker.dtmcsClears) = s.clears := rfl
  change (if (l.checker.isDmiIr && l.checker.drBits != 0 && (l.checker.dmiStatusOut.caseEq DMI_STAT_FAILED ||
      l.checker.dmiStatusOut.caseEq DMI_STAT_BUSY)) = true then _
    else if (l.checker.isDtmcsIr && l.checker.drBits != 0 && l.checker.dtmcsClears) = true then _ else _) = _
  rw [hfail, hclear, stickyUpdated, Latches.latch]
  change _ = { l.checker with
    dmiScanOpen := false
    stickyValid := (if s.failure.isSome then s.failure else if s.clears then none else l.sticky).isSome
    stickyStatus := (if s.failure.isSome then s.failure else if s.clears then none else l.sticky).getD 0 }
  split_ifs with h₁ h₂
  · obtain ⟨v, hv⟩ := Option.isSome_iff_exists.mp h₁
    have hval : l.checker.dmiStatusOut.value = v := by
      rw [DrScan.failure] at hv
      split_ifs at hv
      exact Option.some.inj hv
    rw [hv, ← hval]
    rfl
  · rfl
  · rfl

theorem checker_step (e : PinEvent) : (l.step e).checker = l.checker.step e := by
  have hreset : l.reset.checker = {} := by
    have hsticky : l.reset.sticky = none := Latches.value_concat _ _ _ _
    rw [checker, hsticky]
    rfl
  cases e with
  | trstFalls => exact hreset
  | posedge c tdo =>
    cases hc : c.trstN with
    | false =>
      simp only [step, DmiAssertions.step, hc, Bool.not_false, if_true]
      exact hreset
    | true =>
      simp only [step, DmiAssertions.step, hc, Bool.not_true, Bool.false_eq_true, if_false]
      cases hs : l.state with
      | updateDr =>
        have hact : l.checker.act c.tdi tdo = l.checker.update := by
          rw [DmiAssertions.act]
          simp [checker, hs]
        have hsticky : (l.act c.tdi tdo).sticky = l.stickyUpdated := by
          rw [act, hs]
          exact Latches.value_concat _ _ _ _
        rw [hact, checker_update, ← hsticky]
        cases c.tms <;> simp [act, checker, hs, midScan, scanning, tapNextState, sticky, DrScan.registers]
      | shiftDr =>
        -- the first bit of a scan opens it, and the later ones find it open
        have hopen : (l.ir == JTAG_DMI && !(l.drBits ++ [(c.tdi, tdo)]).isEmpty) =
            (l.ir == JTAG_DMI && !l.drBits.isEmpty || l.ir == JTAG_DMI) := by
          cases l.ir == JTAG_DMI <;> simp
        cases c.tms <;>
          simp [act, DmiAssertions.act, DmiAssertions.isDmiIr, checker, hs, midScan, scanning, tapNextState, sticky,
            DrScan.registers, ShiftRegister.fill_concat, FourState.fill_concat, BitVec.ofNat_add, hopen]
      | captureDr =>
        cases c.tms <;>
          simp [act, DmiAssertions.act, checker, hs, midScan, scanning, tapNextState, sticky, DrScan.registers,
            FourState.fill]
      | shiftIr =>
        cases c.tms <;>
          simp [act, DmiAssertions.act, checker, hs, midScan, scanning, tapNextState, sticky, DrScan.registers,
            ShiftRegister.fill_concat]
      | _ =>
        cases c.tms <;>
          simp [act, DmiAssertions.act, checker, hs, midScan, scanning, tapNextState, sticky, DrScan.registers,
            JTAG_IDCODE]

/-- No scan is open in Capture-DR: the states between lead there only through Update-DR. -/
theorem not_midScan_captureDr : (l.state == captureDr && l.midScan) = false := by
  cases hs : l.state <;> simp [midScan, scanning, hs]

/-- The reading after a list of events. -/
def after (events : List PinEvent) : PinLog := Runs.run step {} events

end PinLog

/-- The registers after a list of events. -/
def DmiAssertions.after (events : List PinEvent) : DmiAssertions := Runs.run step {} events

/-- Whatever happens on the pins, and however long a scan is. -/
theorem run_eq_checker (events : List PinEvent) : DmiAssertions.after events = (PinLog.after events).checker :=
  (Runs.run_map (f := PinLog.checker) PinLog.checker_step events {}).symm

/-- **The shape of a scan.**  On no sequence of pins does the TAP enter Capture-DR with a scan open, so that
neither the assertion on overlapping scans nor the cover property of an abandoned one is ever reached.  A reset
is reported exactly in the middle of a DMI scan, from its first bit to its Update-DR; and a length exactly in the
Update-DR of a DMI scan that has not 41 bits, counted in 32 bits, unless it has none. -/
theorem no_overlapping_dr_scan (events : List PinEvent) :
    (∀ e, (DmiAssertions.after events).fails e .noOverlappingScan = false ∧
      (DmiAssertions.after events).covers e .scanAbandoned = false) ∧
    ((DmiAssertions.after events).fails .trstFalls .notAbortedByTrst = true ↔
      (PinLog.after events).midScan = true) ∧
    ∀ c tdo, (DmiAssertions.after events).fails (.posedge c tdo) .scanLength = true ↔
      c.trstN = true ∧ (PinLog.after events).state = updateDr ∧ (PinLog.after events).ir = JTAG_DMI ∧
        (PinLog.after events).drBits.length % 2 ^ 32 ≠ 0 ∧ (PinLog.after events).drBits.length % 2 ^ 32 ≠ 41 := by
  rw [run_eq_checker]
  generalize PinLog.after events = l
  refine ⟨?_, ?_, ?_⟩
  · intro e
    cases e with
    | trstFalls => exact ⟨rfl, rfl⟩
    | posedge c tdo =>
      change (c.trstN && (l.state == captureDr && l.midScan)) = false ∧
        (c.trstN && (l.state == captureDr && l.midScan)) = false
      rw [l.not_midScan_captureDr, Bool.and_false]
      exact ⟨rfl, rfl⟩
  · exact Iff.of_eq (congrArg (· = true) (Bool.true_and l.midScan))
  · intro c tdo
    have hcount : ∀ n : Nat, n < 2 ^ 32 →
        (l.checker.drBits != BitVec.ofNat 32 n) = decide (l.drBits.length % 2 ^ 32 ≠ n) := by
      intro n hn
      rw [Bool.eq_iff_iff, bne_iff_ne, decide_eq_true_iff, not_iff_not, ← BitVec.toNat_inj]
      change (BitVec.ofNat 32 l.drBits.length).toNat = _ ↔ _
      rw [BitVec.toNat_ofNat, BitVec.toNat_ofNat, Nat.mod_eq_of_lt hn]
    have hzero := hcount 0 (by decide)
    have hwidth := hcount 41 (by decide)
    change (c.trstN && ((l.state == updateDr && l.ir == JTAG_DMI && l.checker.drBits != BitVec.ofNat 32 0) &&
      l.checker.drBits != BitVec.ofNat 32 41)) = true ↔ _
    rw [hzero, hwidth]
    simp only [Bool.and_eq_true, beq_iff_eq, decide_eq_true_iff, and_assoc]

end RiscvDbg

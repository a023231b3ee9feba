import RiscvDbg.Jtag.Driver
import RiscvDbg.Jtag.Monitor

/-!
# From the driver to the monitor

What the monitor makes of the wires the driver drives.

* `seen` — the monitor after everything a driver has driven.
* `latched`, `scanRecord`, `expected` — what should be reported: the instruction that stands after a
  transaction, the record of one scan, and the records of a list of transactions.
* `driver_monitor_round_trip` — after the initial reset, for every list of transactions and whatever
  comes back on TDO: the two TAP states agree in every period, both end in Run-Test/Idle, and the
  monitor has reported the scans of DMI and DTMCS, in order, with the bits the driver drove and
  captured, and nothing else.
-/

set_option autoImplicit false

namespace RiscvDbg

open TapState

/-! ## What should be reported -/

namespace JtagTxn

/-- Whether the transaction scans the data register. -/
def scansDr (t : JtagTxn) : Bool := t.phase == .drOnly || t.phase == .irThenDr

/-- The instruction that stands after the transaction. -/
def latched (ir : BitVec 5) (t : JtagTxn) : BitVec 5 :=
  match t.phase with
  | .irOnly | .irThenDr => t.irVal
  | .tapReset => JTAG_IDCODE
  | .drOnly | .tmsWalk => ir

/-- What a sequence asks for: the transaction without the response half. -/
def request (t : JtagTxn) : JtagTxn := { t with drDataOut := .x, dmiRdata := .x, dmiStatus := .x }

/-- The transactions in question: no walk, the instruction register in full, and 1 to 64 bits of the
data register if it is scanned at all. -/
structure Drivable (t : JtagTxn) : Prop where
  phase : t.phase ≠ .tmsWalk
  irLen : t.irLen = 5
  drLen : t.scansDr = true → 1 ≤ t.drLen ∧ t.drLen ≤ 64

/-- The record of a scan: the bits driven, the bits captured, and for DMI the fields they stand for. -/
def scanRecord (ir : BitVec 5) (t : JtagTxn) : JtagTxn :=
  let bits := ShiftRegister.lowBits t.drLen t.drDataIn
  let r : JtagTxn :=
    { irVal := ir, drLen := t.drLen, drDataIn := bits, drDataOut := t.drDataOut, phase := .drOnly }
  if ir = JTAG_DMI then
    { r with
      dmiOp := bits.extractLsb' 0 2, dmiWdata := bits.extractLsb' 2 32, dmiAddr := bits.extractLsb' 34 7,
      dmiStatus := t.drDataOut.extract 0 2, dmiRdata := t.drDataOut.extract 2 32 }
  else r

/-- The records of a transaction, if `ir` is the instruction its scan finds. -/
def scanRecords (ir : BitVec 5) (t : JtagTxn) : List JtagTxn :=
  if t.scansDr = true ∧ (ir = JTAG_DMI ∨ ir = JTAG_DTMCS) then [t.scanRecord ir] else []

end JtagTxn

/-- The records of a list of completed transactions, if `ir` is the instruction before the first. -/
def expected : BitVec 5 → List JtagTxn → List JtagTxn
  | _, [] => []
  | ir, t :: ts => t.scanRecords (t.latched ir) ++ expected (t.latched ir) ts

namespace JtagDriver

/-- The monitor after everything the driver has driven. -/
def seen (d : JtagDriver) : JtagMonitor := Runs.run JtagMonitor.clock {} d.cycles

/-- The driver's own TAP state has followed the wires. -/
structure Synced (d : JtagDriver) : Prop where
  tapState : d.tapState = Runs.run tapClock testLogicReset d.cycles
  states : d.states = Runs.states tapClock testLogicReset d.cycles

/-- Reset is released and the driver knows where the TAP is. -/
structure Live (d : JtagDriver) : Prop extends Synced d where
  trstN : d.trstN = true

variable (tdo : Nat → FourState 1) {d : JtagDriver}

theorem seen_state (d : JtagDriver) : d.seen.state = Runs.run tapClock testLogicReset d.cycles :=
  Runs.run_map (f := JtagMonitor.state) JtagMonitor.clock_state d.cycles {}

theorem Live.seen_state (h : Live d) : d.seen.state = d.tapState := by
  rw [JtagDriver.seen_state, h.tapState]

@[simp] theorem seen_driveBitNotdo (tms tdi : Bool) :
    (d.driveBitNotdo tdo tms tdi).seen = d.seen.clock (d.wires tdo tms tdi) :=
  Runs.run_concat _ _ _ _

/-! ## One period -/

theorem Synced.driveBitNotdo (h : Synced d) (tms tdi : Bool)
    (hnext : tapNextState d.tapState tms = tapClock d.tapState (d.wires tdo tms tdi)) :
    Synced (d.driveBitNotdo tdo tms tdi) := by
  refine ⟨?_, ?_⟩
  · change tapNextState d.tapState tms = Runs.run tapClock testLogicReset (d.cycles ++ [_])
    rw [Runs.run_concat, ← h.tapState, hnext]
  · change d.states ++ [tapNextState d.tapState tms] = Runs.states tapClock testLogicReset (d.cycles ++ [_])
    rw [Runs.states_concat, ← h.tapState, hnext, h.states]

theorem Live.driveBitNotdo (h : Live d) (tms tdi : Bool) : Live (d.driveBitNotdo tdo tms tdi) := by
  refine ⟨h.toSynced.driveBitNotdo tdo tms tdi ?_, h.trstN⟩
  rw [tapClock, wires, h.trstN, if_pos rfl]

theorem Live.driveBits (h : Live d) (tms : List Bool) (tdi : Bool) : Live (d.driveBits tdo tms tdi) := by
  induction tms generalizing d with
  | nil => exact h
  | cons b tms ih => exact ih (h.driveBitNotdo tdo b tdi)

theorem tapState_driveBits (tms : List Bool) (tdi : Bool) :
    (d.driveBits tdo tms tdi).tapState = Runs.run tapNextState d.tapState tms :=
  Runs.run_map (f := JtagDriver.tapState) (fun _ _ => rfl) tms d

/-! ## Periods in which the monitor only follows -/

/-- Every state from which one of these clocks is taken is quiet. -/
def quietPath : TapState → List Bool → Bool
  | _, [] => true
  | s, b :: tms => JtagMonitor.quiet s && quietPath (tapNextState s b) tms

theorem Live.data_driveBits (h : Live d) (tms : List Bool) (tdi : Bool)
    (hq : quietPath d.tapState tms = true) : (d.driveBits tdo tms tdi).seen.data = d.seen.data := by
  induction tms generalizing d with
  | nil => rfl
  | cons b tms ih =>
    obtain ⟨hs, htms⟩ := Bool.and_eq_true_iff.mp hq
    have hrest : ((d.driveBitNotdo tdo b tdi).driveBits tdo tms tdi).seen.data = _ :=
      ih (h.driveBitNotdo tdo b tdi) htms
    have hfirst : (d.driveBitNotdo tdo b tdi).seen.data = d.seen.data := by
      rw [seen_driveBitNotdo]
      exact JtagMonitor.data_clock_quiet h.trstN (by rw [h.seen_state]; exact hs)
    exact hrest.trans hfirst

/-! ## Between transactions -/

/-- The driver is between transactions: `ir` is the instruction, `recs` what has been reported. -/
structure Idle (d : JtagDriver) (ir : BitVec 5) (recs : List JtagTxn) : Prop extends Live d where
  idle : d.tapState = runTestIdle
  currIr : d.seen.currIr = ir
  records : d.seen.records = recs

theorem initialReset_idle : Idle (initialReset tdo) JTAG_IDCODE [] where
  tapState := rfl
  states := rfl
  trstN := rfl
  idle := rfl
  currIr := rfl
  records := rfl

variable {ir : BitVec 5} {recs : List JtagTxn}

theorem Live.data_testLogicReset (h : Live d) (hs : d.tapState = testLogicReset) (b : Bool) :
    (d.driveBitNotdo tdo b false).seen.data = { d.seen.data with currIr := JTAG_IDCODE } := by
  rw [seen_driveBitNotdo]
  exact JtagMonitor.data_clock_testLogicReset h.trstN (by rw [h.seen_state, hs])

/-- From Run-Test/Idle three of the five clocks reach Test-Logic-Reset; the others select IDCODE. -/
theorem Idle.driveTapReset (h : Idle d ir recs) : Idle (d.driveTapReset tdo) JTAG_IDCODE recs := by
  let d₃ := d.driveBits tdo [true, true, true] false
  let d₄ := d₃.driveBitNotdo tdo true false
  let d₅ := d₄.driveBitNotdo tdo true false
  have h₃ : Live d₃ := h.toLive.driveBits tdo _ _
  have h₄ : Live d₄ := h₃.driveBitNotdo tdo _ _
  have h₅ : Live d₅ := h₄.driveBitNotdo tdo _ _
  have hs₃ : d₃.tapState = testLogicReset := by
    rw [tapState_driveBits, h.idle]; rfl
  have hs₄ : d₄.tapState = testLogicReset := by
    change tapNextState d₃.tapState true = _
    rw [hs₃]; rfl
  have hs₅ : d₅.tapState = testLogicReset :=
    (tapState_driveBits tdo (List.replicate 5 true) false).trans (tapNextState_five_ones d.tapState)
  have hdata : (d.driveTapReset tdo).seen.data = { d.seen.data with currIr := JTAG_IDCODE } := by
    have hquiet : d₃.seen.data = d.seen.data := h.toLive.data_driveBits tdo _ _ (by rw [h.idle]; rfl)
    have hlast := h₅.data_testLogicReset tdo hs₅ false
    rw [h₄.data_testLogicReset tdo hs₄, h₃.data_testLogicReset tdo hs₃, hquiet] at hlast
    exact hlast
  refine ⟨h₅.driveBitNotdo tdo false false, ?_, ?_, ?_⟩
  · change tapNextState d₅.tapState false = _
    rw [hs₅]; rfl
  · exact congrArg JtagMonitor.currIr hdata
  · exact (congrArg JtagMonitor.records hdata).trans h.records

/-! ## Scans of the instruction register -/

/-- The clocks from Exit1 to Update. -/
def updatePath (pause : Bool) : List Bool := if pause then [false, false, true, true] else [true]

theorem driveUpdate_eq (d : JtagDriver) (pause : Bool) :
    d.driveUpdate tdo pause =
      (d.driveBits tdo (updatePath pause) false).driveBitNotdo tdo false false := by
  cases pause <;> rfl

/-- The first `k` iterations of the loop of `drive_ir` have filled the register with `k` bits. -/
structure IrLoop (t : JtagTxn) (k : Nat) (d d' : JtagDriver) : Prop extends Live d' where
  tap : d'.tapState = if k < 5 then shiftIr else exit1Ir
  holds : ShiftRegister.Holds d'.seen.irReg k t.irVal
  records : d'.seen.records = d.seen.records

theorem IrLoop.step {t : JtagTxn} {k : Nat} {d' : JtagDriver} (hlen : t.irLen = 5) (hk : k < 5)
    (h : IrLoop t k d d') : IrLoop t (k + 1) d (d'.driveIrBit tdo t k) := by
  have hs : d'.tapState = shiftIr := by rw [h.tap, if_pos hk]
  have hdata := JtagMonitor.data_clock_shiftIr (c := d'.wires tdo (k == t.irLen - 1) (t.irVal.getLsbD k))
    h.trstN (by rw [h.seen_state, hs])
  rw [← seen_driveBitNotdo] at hdata
  refine ⟨h.toLive.driveBitNotdo tdo _ _, ?_, ?_, ?_⟩
  · change tapNextState d'.tapState (k == t.irLen - 1) = _
    rw [hs, hlen]
    rcases Nat.lt_or_ge (k + 1) 5 with hlt | hge
    · rw [if_pos hlt, beq_eq_false_iff_ne.mpr (by omega)]; rfl
    · rw [if_neg (by omega), beq_iff_eq.mpr (by omega)]; rfl
  · have hreg : (d'.driveIrBit tdo t k).seen.irReg = ShiftRegister.shiftIn d'.seen.irReg (t.irVal.getLsbD k) :=
      congrArg JtagMonitor.irReg hdata
    rw [hreg]
    exact h.holds.shiftIn (by omega)
  · exact (congrArg JtagMonitor.records hdata).trans h.records

theorem irLoop (t : JtagTxn) (hlen : t.irLen = 5) (h : Live d) (hs : d.tapState = shiftIr) :
    ∀ k ≤ 5, IrLoop t k d ((List.range k).foldl (fun d i => d.driveIrBit tdo t i) d) := by
  intro k
  induction k with
  | zero => intro _; exact ⟨h, by rw [if_pos (by omega)]; exact hs, ShiftRegister.holds_zero _ _, rfl⟩
  | succ k ih =>
    intro hk
    rw [List.range_succ, List.foldl_concat]
    exact (ih (by omega)).step tdo hlen (by omega)

theorem Idle.driveIr (h : Idle d ir recs) {t : JtagTxn} (hlen : t.irLen = 5) :
    Idle (d.driveIr tdo t) t.irVal recs := by
  let d₁ := d.driveBits tdo [true, true, false, false] false
  have h₁ : Live d₁ := h.toLive.driveBits tdo _ _
  have hs₁ : d₁.tapState = shiftIr := by rw [tapState_driveBits, h.idle]; rfl
  have hd₁ : d₁.seen.data = d.seen.data := h.toLive.data_driveBits tdo _ _ (by rw [h.idle]; rfl)
  let d₂ := (List.range 5).foldl (fun d i => d.driveIrBit tdo t i) d₁
  have h₂ : IrLoop t 5 d₁ d₂ := irLoop tdo t hlen h₁ hs₁ 5 (Nat.le_refl 5)
  have hs₂ : d₂.tapState = exit1Ir := h₂.tap
  let d₃ := d₂.driveBits tdo (updatePath t.pause) false
  have h₃ : Live d₃ := h₂.toLive.driveBits tdo _ _
  have hs₃ : d₃.tapState = updateIr := by
    rw [tapState_driveBits, hs₂]
    cases t.pause <;> rfl
  have hd₃ : d₃.seen.data = d₂.seen.data := by
    apply h₂.toLive.data_driveBits
    rw [hs₂]
    cases t.pause <;> rfl
  have hreg : d₂.seen.irReg = t.irVal := by
    have halign := h₂.holds.shiftRight (Nat.le_refl 5)
    rw [Nat.sub_self, BitVec.ushiftRight_zero] at halign
    rw [halign, ShiftRegister.lowBits, BitVec.setWidth_eq, BitVec.setWidth_eq]
  have hdata := JtagMonitor.data_clock_updateIr (c := d₃.wires tdo false false) h₃.trstN
    (by rw [h₃.seen_state, hs₃])
  rw [← seen_driveBitNotdo] at hdata
  have heq : d.driveIr tdo t = d₃.driveBitNotdo tdo false false := by
    rw [JtagDriver.driveIr, hlen, driveUpdate_eq]
  rw [heq]
  refine ⟨h₃.driveBitNotdo tdo _ _, ?_, ?_, ?_⟩
  · change tapNextState d₃.tapState false = _
    rw [hs₃]; rfl
  · calc (d₃.driveBitNotdo tdo false false).seen.currIr = d₃.seen.irReg := congrArg JtagMonitor.currIr hdata
      _ = d₂.seen.irReg := (JtagMonitor.SameData.of_data hd₃).irReg
      _ = t.irVal := hreg
  · calc (d₃.driveBitNotdo tdo false false).seen.records = d₃.seen.records :=
          (congrArg JtagMonitor.records hdata :)
      _ = d₂.seen.records := (JtagMonitor.SameData.of_data hd₃).records
      _ = d₁.seen.records := h₂.records
      _ = d.seen.records := (JtagMonitor.SameData.of_data hd₁).records
      _ = recs := h.records

/-! ## Scans of the data register -/

/-- The first `k` iterations of the loop of `drive_dr` from `d`: the monitor's registers hold `k` bits
each, those driven and those collected in `dr_data_out`. -/
structure DrLoop (t : JtagTxn) (k : Nat) (d : JtagDriver) (p : FourState 64 × JtagDriver) : Prop
    extends Live p.2 where
  tap : p.2.tapState = if k < t.drLen then shiftDr else exit1Dr
  drBit : p.2.seen.drBit = k
  driven : ShiftRegister.Holds p.2.seen.drReg k t.drDataIn
  captured : p.2.seen.drOutReg.Holds k p.1
  currIr : p.2.seen.currIr = d.seen.currIr
  records : p.2.seen.records = d.seen.records

theorem DrLoop.step {t : JtagTxn} {k : Nat} {p : FourState 64 × JtagDriver} (hmax : t.drLen ≤ 64)
    (hk : k < t.drLen) (h : DrLoop t k d p) : DrLoop t (k + 1) d (driveDrBit tdo t p k) := by
  have hs : p.2.tapState = shiftDr := by rw [h.tap, if_pos hk]
  have hdata := JtagMonitor.data_clock_shiftDr (c := p.2.wires tdo (k == t.drLen - 1) (t.drDataIn.getLsbD k))
    h.trstN (by rw [h.seen_state, hs])
  rw [← seen_driveBitNotdo] at hdata
  refine ⟨h.toLive.driveBitNotdo tdo _ _, ?_, ?_, ?_, ?_, ?_, ?_⟩
  · change tapNextState p.2.tapState (k == t.drLen - 1) = _
    rw [hs]
    rcases Nat.lt_or_ge (k + 1) t.drLen with hlt | hge
    · rw [if_pos hlt, beq_eq_false_iff_ne.mpr (by omega)]; rfl
    · rw [if_neg (by omega), beq_iff_eq.mpr (by omega)]; rfl
  · exact (congrArg JtagMonitor.drBit hdata).trans (congrArg (· + 1) h.drBit)
  · have hreg : (driveDrBit tdo t p k).2.seen.drReg =
        ShiftRegister.shiftIn p.2.seen.drReg (t.drDataIn.getLsbD k) := congrArg JtagMonitor.drReg hdata
    rw [hreg]
    exact h.driven.shiftIn (by omega)
  · have hreg : (driveDrBit tdo t p k).2.seen.drOutReg =
        p.2.seen.drOutReg.shiftIn (tdo p.2.cycles.length) := congrArg JtagMonitor.drOutReg hdata
    rw [hreg]
    exact h.captured.shiftIn (by omega) _
  · exact (congrArg JtagMonitor.currIr hdata).trans h.currIr
  · exact (congrArg JtagMonitor.records hdata).trans h.records

theorem drLoop (t : JtagTxn) (hmin : 1 ≤ t.drLen) (hmax : t.drLen ≤ 64) (h : Live d)
    (hs : d.tapState = shiftDr) (hbit : d.seen.drBit = 0) :
    ∀ k ≤ t.drLen, DrLoop t k d ((List.range k).foldl (driveDrBit tdo t) (.ofBits 0, d)) := by
  intro k
  induction k with
  | zero =>
    intro _
    exact ⟨h, by rw [if_pos (by omega)]; exact hs, hbit, ShiftRegister.holds_zero _ _,
      FourState.holds_zero _, rfl, rfl⟩
  | succ k ih =>
    intro hk
    rw [List.range_succ, List.foldl_concat]
    exact (ih (by omega)).step tdo hmax (by omega)

/-- Aligned to the right, the registers of a completed scan give its record. -/
theorem DrLoop.emitted {t : JtagTxn} {p : FourState 64 × JtagDriver} (hmin : 1 ≤ t.drLen)
    (hmax : t.drLen ≤ 64) (h : DrLoop t t.drLen d p) :
    p.2.seen.emitted =
      if d.seen.currIr = JTAG_DMI ∨ d.seen.currIr = JTAG_DTMCS then
        [JtagTxn.scanRecord d.seen.currIr (JtagTxn.unpackDmi { t with drDataOut := p.1 })]
      else [] := by
  have hdriven : p.2.seen.drReg >>> alignShift t.drLen = ShiftRegister.lowBits t.drLen t.drDataIn := by
    rw [alignShift_eq hmin hmax]
    exact h.driven.shiftRight hmax
  have hcaptured : p.2.seen.drOutReg.shiftRight (alignShift t.drLen) = p.1 := by
    rw [alignShift_eq hmin hmax]
    exact h.captured.shiftRight hmax
  rw [JtagMonitor.emitted, h.currIr, h.drBit]
  change (if d.seen.currIr = JTAG_DMI then _ else if d.seen.currIr = JTAG_DTMCS then _ else _) = _
  by_cases hdmi : d.seen.currIr = JTAG_DMI
  · rw [if_pos hdmi, if_pos (Or.inl hdmi), JtagTxn.scanRecord, if_pos hdmi, hdmi, emitDmiTxn, emitTxn,
      hdriven, hcaptured]
    rfl
  · by_cases hdtmcs : d.seen.currIr = JTAG_DTMCS
    · rw [if_neg hdmi, if_pos hdtmcs, if_pos (Or.inr hdtmcs), JtagTxn.scanRecord, if_neg hdmi, hdtmcs,
        emitDtmcsTxn, emitTxn, hdriven, hcaptured]
      rfl
    · rw [if_neg hdmi, if_neg hdtmcs, if_neg (not_or.mpr ⟨hdmi, hdtmcs⟩)]

theorem Idle.driveDr (h : Idle d ir recs) {t : JtagTxn} (hmin : 1 ≤ t.drLen) (hmax : t.drLen ≤ 64) :
    Idle (d.driveDr tdo t).2 ir
      (recs ++ if ir = JTAG_DMI ∨ ir = JTAG_DTMCS then [JtagTxn.scanRecord ir (d.driveDr tdo t).1] else []) := by
  let d₁ := d.driveBits tdo [true, false] false
  have h₁ : Live d₁ := h.toLive.driveBits tdo _ _
  have hs₁ : d₁.tapState = captureDr := by rw [tapState_driveBits, h.idle]; rfl
  have hd₁ : JtagMonitor.SameData d₁.seen d.seen :=
    .of_data (h.toLive.data_driveBits tdo _ _ (by rw [h.idle]; rfl))
  let d₂ := d₁.driveBitNotdo tdo false false
  have h₂ : Live d₂ := h₁.driveBitNotdo tdo _ _
  have hs₂ : d₂.tapState = shiftDr := by
    change tapNextState d₁.tapState false = _
    rw [hs₁]; rfl
  have hd₂ : d₂.seen.data = { d₁.seen.data with drBit := 0 } := by
    rw [seen_driveBitNotdo]
    exact JtagMonitor.data_clock_captureDr h₁.trstN (by rw [h₁.seen_state, hs₁])
  let p := (List.range t.drLen).foldl (driveDrBit tdo t) (.ofBits 0, d₂)
  have h₃ : DrLoop t t.drLen d₂ p :=
    drLoop tdo t hmin hmax h₂ hs₂ (congrArg JtagMonitor.drBit hd₂) t.drLen (Nat.le_refl _)
  have hs₃ : p.2.tapState = exit1Dr := by rw [h₃.tap, if_neg (by omega)]
  let d₄ := p.2.driveBits tdo (updatePath t.pause) false
  have h₄ : Live d₄ := h₃.toLive.driveBits tdo _ _
  have hs₄ : d₄.tapState = updateDr := by
    rw [tapState_driveBits, hs₃]
    cases t.pause <;> rfl
  have hd₄ : JtagMonitor.SameData d₄.seen p.2.seen := by
    apply JtagMonitor.SameData.of_data
    apply h₃.toLive.data_driveBits
    rw [hs₃]
    cases t.pause <;> rfl
  have hdata := JtagMonitor.data_clock_updateDr (c := d₄.wires tdo false false) h₄.trstN
    (by rw [h₄.seen_state, hs₄])
  rw [← seen_driveBitNotdo] at hdata
  have heq : d.driveDr tdo t =
      (JtagTxn.unpackDmi { t with drDataOut := p.1 }, d₄.driveBitNotdo tdo false false) := by
    change (_, p.2.driveUpdate tdo t.pause) = _
    rw [driveUpdate_eq]
    rfl
  have hcurr : d₂.seen.currIr = ir :=
    ((congrArg JtagMonitor.currIr hd₂ :).trans hd₁.currIr).trans h.currIr
  have hrecs : p.2.seen.records = recs :=
    ((h₃.records.trans (congrArg JtagMonitor.records hd₂ :)).trans hd₁.records).trans h.records
  have hemitted : d₄.seen.emitted = p.2.seen.emitted := by
    rw [JtagMonitor.emitted, JtagMonitor.emitted, hd₄.currIr, hd₄.drReg, hd₄.drOutReg, hd₄.drBit]
  rw [heq]
  refine ⟨h₄.driveBitNotdo tdo _ _, ?_, ?_, ?_⟩
  · change tapNextState d₄.tapState false = _
    rw [hs₄]; rfl
  · calc (d₄.driveBitNotdo tdo false false).seen.currIr = d₄.seen.currIr :=
          (congrArg JtagMonitor.currIr hdata :)
      _ = p.2.seen.currIr := hd₄.currIr
      _ = ir := h₃.currIr.trans hcurr
  · calc (d₄.driveBitNotdo tdo false false).seen.records = d₄.seen.records ++ d₄.seen.emitted :=
          (congrArg JtagMonitor.records hdata :)
      _ = recs ++ p.2.seen.emitted := by rw [hd₄.records, hrecs, hemitted]
      _ = _ := by rw [h₃.emitted hmin hmax, hcurr]

/-! ## Transactions -/

theorem request_driveTxn (d : JtagDriver) (t : JtagTxn) : (d.driveTxn tdo t).1.request = t.request := by
  unfold driveTxn
  split <;> rfl

theorem scansDr_of_request {t t' : JtagTxn} (h : t'.request = t.request) : t'.scansDr = t.scansDr := by
  have hphase : t'.phase = t.phase := (congrArg JtagTxn.phase h :)
  rw [JtagTxn.scansDr, JtagTxn.scansDr, hphase]

theorem latched_of_request {t t' : JtagTxn} (h : t'.request = t.request) (ir : BitVec 5) :
    t'.latched ir = t.latched ir := by
  have hphase : t'.phase = t.phase := (congrArg JtagTxn.phase h :)
  have hir : t'.irVal = t.irVal := (congrArg JtagTxn.irVal h :)
  rw [JtagTxn.latched, JtagTxn.latched, hphase, hir]

theorem Idle.driveTxn (h : Idle d ir recs) {t : JtagTxn} (ht : t.Drivable) :
    Idle (d.driveTxn tdo t).2 (t.latched ir)
      (recs ++ (d.driveTxn tdo t).1.scanRecords (t.latched ir)) := by
  have hscans := scansDr_of_request (request_driveTxn tdo d t)
  have hlen := ht.drLen
  rw [JtagTxn.scanRecords, hscans]
  unfold JtagDriver.driveTxn JtagTxn.latched
  cases hp : t.phase with
  | irOnly =>
    have hno : t.scansDr = false := by rw [JtagTxn.scansDr, hp]; rfl
    rw [if_neg (by rw [hno]; exact fun h => absurd h.1 Bool.false_ne_true), List.append_nil]
    exact h.driveIr tdo ht.irLen
  | drOnly =>
    have hyes : t.scansDr = true := by rw [JtagTxn.scansDr, hp]; rfl
    have hdr := h.driveDr tdo (hlen hyes).1 (hlen hyes).2
    simpa only [hyes, true_and] using hdr
  | irThenDr =>
    have hyes : t.scansDr = true := by rw [JtagTxn.scansDr, hp]; rfl
    have hdr := (h.driveIr tdo ht.irLen).driveDr tdo (hlen hyes).1 (hlen hyes).2
    simpa only [hyes, true_and] using hdr
  | tapReset =>
    have hno : t.scansDr = false := by rw [JtagTxn.scansDr, hp]; rfl
    rw [if_neg (by rw [hno]; exact fun h => absurd h.1 Bool.false_ne_true), List.append_nil]
    exact h.driveTapReset tdo
  | tmsWalk => exact absurd hp ht.phase

theorem request_driveAll : ∀ (ts : List JtagTxn) (d : JtagDriver),
    (d.driveAll tdo ts).1.map JtagTxn.request = ts.map JtagTxn.request := by
  intro ts
  induction ts with
  | nil => intro d; rfl
  | cons t ts ih =>
    intro d
    rw [List.map_cons, ← ih (d.driveTxn tdo t).2, ← request_driveTxn tdo d t]
    rfl

theorem Idle.driveAll {ts : List JtagTxn} (hts : ∀ t ∈ ts, t.Drivable) (h : Idle d ir recs) :
    ∃ ir', Idle (d.driveAll tdo ts).2 ir' (recs ++ expected ir (d.driveAll tdo ts).1) := by
  induction ts generalizing d ir recs with
  | nil =>
    refine ⟨ir, ?_⟩
    rw [JtagDriver.driveAll, expected, List.append_nil]
    exact h
  | cons t ts ih =>
    have hfirst := h.driveTxn tdo (hts t List.mem_cons_self)
    obtain ⟨ir', hrest⟩ := ih (fun t' ht' => hts t' (List.mem_cons_of_mem t ht')) hfirst
    refine ⟨ir', ?_⟩
    have hlatched := latched_of_request (request_driveTxn tdo d t) ir
    have hexp : expected ir (d.driveAll tdo (t :: ts)).1 =
        (d.driveTxn tdo t).1.scanRecords (t.latched ir) ++
          expected (t.latched ir) (((d.driveTxn tdo t).2).driveAll tdo ts).1 := by
      rw [← hlatched]
      rfl
    rw [hexp, ← List.append_assoc]
    exact hrest

end JtagDriver

/-- **Round trip.**  Whatever comes back on TDO, and however the instruction changes between the scans:
the driver and the monitor follow `tap_next_state` period by period and end in Run-Test/Idle, and the
records are those of the scans of DMI and DTMCS, one for each and in order. -/
theorem driver_monitor_round_trip (tdo : Nat → FourState 1) (ts : List JtagTxn)
    (hts : ∀ t ∈ ts, t.Drivable) :
    let (rsps, d) := (JtagDriver.initialReset tdo).driveAll tdo ts
    (d.states = Runs.states tapClock testLogicReset d.cycles ∧
      (Runs.states JtagMonitor.clock {} d.cycles).map JtagMonitor.state =
        Runs.states tapClock testLogicReset d.cycles) ∧
    (d.tapState = runTestIdle ∧ d.seen.state = runTestIdle) ∧
    rsps.map JtagTxn.request = ts.map JtagTxn.request ∧
    d.seen.records = expected JTAG_IDCODE rsps := by
  obtain ⟨ir, hend⟩ := (JtagDriver.initialReset_idle tdo).driveAll tdo hts
  refine ⟨⟨hend.states, ?_⟩, ⟨hend.idle, hend.toLive.seen_state.trans hend.idle⟩, ?_, hend.records⟩
  · exact Runs.states_map (f := JtagMonitor.state) JtagMonitor.clock_state _ {}
  · exact JtagDriver.request_driveAll tdo ts _

/-- A DMI scan with a pause, a scan of IDCODE after a TAP reset, and a scan of DTMCS selected before:
two records, the second with unknown bits. -/
theorem driver_monitor_round_trip_two_records :
    let tdo : Nat → FourState 1 := fun n => if n < 40 then .ofBits 1 else .x
    let ts : List JtagTxn :=
      [{ phase := .irThenDr, irVal := JTAG_DMI, drDataIn := 0x4444aaaa1#64, drLen := 41, pause := true },
        { phase := .tapReset }, { phase := .drOnly, drDataIn := 7#64, drLen := 64 },
        { phase := .irOnly, irVal := JTAG_DTMCS }, { phase := .drOnly, drDataIn := 0x10001#64, drLen := 1 }]
    let (rsps, d) := (JtagDriver.initialReset tdo).driveAll tdo ts
    d.seen.records = expected JTAG_IDCODE rsps ∧
      d.seen.records.map (fun r => (r.irVal, r.drLen, r.drDataIn)) =
        [(JTAG_DMI, 41, 0x4444aaaa1#64), (JTAG_DTMCS, 1, 1#64)] := by
  intro tdo ts
  have hts : ∀ t ∈ ts, t.Drivable := by
    intro t ht
    simp only [ts, List.mem_cons, List.not_mem_nil, or_false] at ht
    rcases ht with rfl | rfl | rfl | rfl | rfl <;>
      exact ⟨by decide, rfl, by decide⟩
  obtain ⟨-, -, -, hrecs⟩ := driver_monitor_round_trip tdo ts hts
  refine ⟨hrecs, ?_⟩
  rw [hrecs]
  decide +kernel

end RiscvDbg

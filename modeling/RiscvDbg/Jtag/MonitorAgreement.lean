import RiscvDbg.Jtag.Driver
import RiscvDbg.Jtag.Monitor
import RiscvDbg.Jtag.StickyStatus

/-!
# The monitor and the assertions

`dmi_assertions` rebuilds the TAP from the pins the way `jtag_monitor` does.  The two differ in how they keep a
scan: the monitor has 64 bits, clears them in Update-DR and never clears its instruction register; the module has 41
bits and clears both registers in Capture.  They also differ in what they are sensitive to: the module follows nTRST
at once and finds TDO at the rising edge of TCK; the monitor sees nTRST at the edges of TCK only and finds TDO at the
falling edge.

* `PinEdge` — an edge of TCK or of nTRST; `Pins` — the levels between the edges.
* `PinWatch` — the two on one set of pins, with the bit-by-bit reading beside them.
* `PinWatch.Allows` — what is asked of an edge: TDO holds through the high phase of TCK, a fall of nTRST lasts until a
  rising edge of TCK, and a scan of the instruction register has five bits or more.
* `PinEntry.record` — what the monitor broadcasts for a completed scan.
* `MonitorFollows` — the monitor's variables against the reading of the pins; `clock` — one period of TCK.
* `monitor_checker_agree` — the two are in the same state, outside Test-Logic-Reset under the same instruction, and
  the monitor's records are those of the scans the module checks.
-/

set_option autoImplicit false

namespace RiscvDbg

open TapState

/-! ## The pins -/

/-- An edge on the pins, with the wires it finds. -/
inductive PinEdge where
  | tckRises (tms tdi : Bool) (tdo : FourState 1)
  | tckFalls (tdo : FourState 1)
  | trstFalls
  | trstRises
  deriving DecidableEq, Repr

/-- The pins between two edges, with the wires at the last rising edge of TCK. -/
structure Pins where
  trstN : Bool := false
  tck : Bool := false
  last : Tck := ⟨false, false, false, .ofBits 0⟩
  /-- nTRST has fallen, and no rising edge of TCK has come since. -/
  unseen : Bool := false
  deriving DecidableEq, Repr

namespace Pins

variable (p : Pins)

/-- The wires an edge of TCK finds. -/
def wires (tms tdi : Bool) (tdo : FourState 1) : Tck := ⟨p.trstN, tms, tdi, tdo⟩

def step : PinEdge → Pins
  | .tckRises tms tdi tdo => { p with tck := true, last := p.wires tms tdi tdo, unseen := false }
  | .tckFalls _ => { p with tck := false }
  | .trstFalls => { p with trstN := false, unseen := true }
  | .trstRises => { p with trstN := true }

/-- What `dmi_assertions` is sensitive to. -/
def event? : PinEdge → Option PinEvent
  | .tckRises tms tdi tdo => some (.posedge (p.wires tms tdi tdo) tdo)
  | .trstFalls => some .trstFalls
  | _ => none

end Pins

/-- What the two processes of the monitor do at an edge. -/
def JtagMonitor.onEdge (m : JtagMonitor) (p : Pins) : PinEdge → JtagMonitor
  | .tckRises tms tdi tdo => m.posedge (p.wires tms tdi tdo)
  | .tckFalls tdo => m.negedge (p.wires p.last.tms p.last.tdi tdo)
  | _ => m

/-- The monitor, the module and the reading on the same pins. -/
structure PinWatch where
  pins : Pins := {}
  monitor : JtagMonitor := {}
  checker : DmiAssertions := {}
  log : PinLog := {}

namespace PinWatch

variable (b : PinWatch)

def step (e : PinEdge) : PinWatch where
  pins := b.pins.step e
  monitor := b.monitor.onEdge b.pins e
  checker := (b.pins.event? e).elim b.checker b.checker.step
  log := (b.pins.event? e).elim b.log b.log.step

/-- The edges of TCK and of nTRST alternate; TDO holds through the high phase of TCK; nTRST stays low until a rising
edge of TCK has come; no scan of the instruction register ends with fewer than five bits. -/
def Allows : PinEdge → Prop
  | .tckRises _ _ _ => b.pins.tck = false ∧ (b.log.state = updateIr → 5 ≤ b.log.irBits.length)
  | .tckFalls tdo => b.pins.tck = true ∧ tdo = b.pins.last.tdo
  | .trstFalls => b.pins.trstN = true
  | .trstRises => b.pins.trstN = false ∧ b.pins.unseen = false

instance : ∀ e, Decidable (b.Allows e)
  | .tckRises _ _ _ => inferInstanceAs (Decidable (_ ∧ _))
  | .tckFalls _ => inferInstanceAs (Decidable (_ ∧ _))
  | .trstFalls => inferInstanceAs (Decidable (_ = true))
  | .trstRises => inferInstanceAs (Decidable (_ ∧ _))

end PinWatch

/-! ## One period -/

/-- What the monitor broadcasts for an entry. -/
def PinEntry.record : PinEntry → Option JtagTxn
  | .trst => none
  | .scan s =>
    let drReg := ShiftRegister.fill (s.bits.map Prod.fst)
    let drOutReg := FourState.fill (s.bits.map Prod.snd)
    if s.ir = JTAG_DMI then some (emitDmiTxn drReg drOutReg s.bits.length)
    else if s.ir = JTAG_DTMCS then some (emitDtmcsTxn drReg drOutReg s.bits.length)
    else none

/-- A record depends on the bits of its scan, not on what the register held before. -/
theorem emitTxn_sameTop {o o' : FourState 64} {k : Nat} (h : o.SameTop k o') (ir : BitVec 5) (d : BitVec 64) :
    emitTxn ir d o k = emitTxn ir d o' k := by
  rw [emitTxn, emitTxn, h.shiftRight (le_alignShift_add k)]

/-- The monitor, with TCK low, has seen what the log has. -/
structure MonitorFollows (m : JtagMonitor) (l : PinLog) : Prop where
  state : m.state = l.state
  currIr : m.currIr = l.ir ∨ m.state = testLogicReset
  irReg : ShiftRegister.SameTop m.irReg l.irBits.length (ShiftRegister.fill l.irBits)
  drReg : m.drReg = if PinLog.scanning l.state then ShiftRegister.fill (l.drBits.map Prod.fst) else 0
  drOutReg : PinLog.scanning l.state = true →
    FourState.SameTop m.drOutReg l.drBits.length (FourState.fill (l.drBits.map Prod.snd))
  drBit : PinLog.scanning l.state = true → m.drBit = l.drBits.length
  records : m.records = l.entries.filterMap PinEntry.record

/-- One period of the log. -/
def PinLog.clock (l : PinLog) (c : Tck) : PinLog := l.step (.posedge c c.tdo)

theorem PinLog.clock_state (l : PinLog) (c : Tck) : (l.clock c).state = tapClock l.state c := by
  rw [clock, step, tapClock]
  cases c.trstN <;> rfl

theorem PinLog.clock_live (l : PinLog) {c : Tck} (hc : c.trstN = true) :
    l.clock c = { l.act c.tdi c.tdo with state := tapNextState l.state c.tms } := by
  simp [clock, step, hc]

namespace MonitorFollows

variable {m : JtagMonitor} {l : PinLog} {c : Tck}

theorem clock_state_eq (h : MonitorFollows m l) : (m.clock c).state = (l.clock c).state := by
  rw [JtagMonitor.clock_state, PinLog.clock_state, h.state]

/-- A period under nTRST loses everything but the records. -/
theorem of_reset (hrecords : m.records = l.entries.filterMap PinEntry.record) (hc : c.trstN = false) :
    MonitorFollows (m.clock c) (l.clock c) := by
  have hm : m.clock c = { m.reset with drOutReg := .ofBits 0 } := by
    simp [JtagMonitor.clock, JtagMonitor.posedge, JtagMonitor.negedge, hc]
  have hl : l.clock c = l.reset := by simp [PinLog.clock, PinLog.step, hc]
  rw [hm, hl]
  refine ⟨rfl, Or.inr rfl, ShiftRegister.sameTop_zero _ _, rfl, ?_, ?_, ?_⟩
  · intro hno
    cases hno
  · intro hno
    cases hno
  · simp [JtagMonitor.reset, PinLog.reset, hrecords, PinEntry.record]

/-- Outside the scans of the data register nothing is asked of `dr_out_reg`. -/
theorem with_drOutReg (h : MonitorFollows m l) {o : FourState 64}
    (ho : PinLog.scanning l.state = true → o = m.drOutReg) : MonitorFollows { m with drOutReg := o } l :=
  ⟨h.state, h.currIr, h.irReg, h.drReg, fun hs => ho hs ▸ h.drOutReg hs, h.drBit, h.records⟩

/-- The states in which neither keeps anything. -/
theorem quiet (h : MonitorFollows m l) (hc : c.trstN = true) (hq : JtagMonitor.quiet l.state = true)
    (hcap : l.state ≠ captureIr) : MonitorFollows (m.clock c) (l.clock c) := by
  have hsame := JtagMonitor.SameData.of_data (JtagMonitor.data_clock_quiet (m := m) hc (by rw [h.state]; exact hq))
  have hact : l.act c.tdi c.tdo = l := by
    rw [PinLog.act]
    cases hs : l.state <;> simp_all [JtagMonitor.quiet]
  have hl : l.clock c = { l with state := tapNextState l.state c.tms } := by rw [l.clock_live hc, hact]
  have hscan : PinLog.scanning (tapNextState l.state c.tms) = PinLog.scanning l.state := by
    cases hs : l.state <;> simp [hs, JtagMonitor.quiet] at hq <;> cases c.tms <;> rfl
  have hir : m.currIr = l.ir := by
    rcases h.currIr with heq | hreset
    · exact heq
    · rw [h.state] at hreset
      rw [hreset] at hq
      cases hq
  refine ⟨h.clock_state_eq, ?_, ?_, ?_, ?_, ?_, ?_⟩
  · exact Or.inl (by rw [hsame.currIr, hl, hir])
  · rw [hsame.irReg, hl]
    exact h.irReg
  · rw [hsame.drReg, hl, hscan]
    exact h.drReg
  · rw [hsame.drOutReg, hl, hscan]
    exact h.drOutReg
  · rw [hsame.drBit, hl, hscan]
    exact h.drBit
  · rw [hsame.records, hl]
    exact h.records

/-- Away from Test-Logic-Reset the instructions agree. -/
theorem currIr_eq (h : MonitorFollows m l) {s : TapState} (hs : l.state = s) (hne : s ≠ testLogicReset) :
    m.currIr = l.ir := by
  rcases h.currIr with heq | hreset
  · exact heq
  · exact absurd (hs.symm.trans (h.state.symm.trans hreset)) hne

/-- A period outside the scans of the data register touches the two instruction registers only. -/
theorem outside (h : MonitorFollows m l) {r i j : BitVec 5} {b : List Bool}
    (hsame : JtagMonitor.SameData (m.clock c) { m with irReg := r, currIr := i })
    (hl : l.clock c = { l with state := tapNextState l.state c.tms, irBits := b, ir := j })
    (hno : PinLog.scanning l.state = false) (hscan : PinLog.scanning (tapNextState l.state c.tms) = false)
    (hir : i = j)
    (hreg : ShiftRegister.SameTop r b.length (ShiftRegister.fill b)) :
    MonitorFollows (m.clock c) (l.clock c) := by
  have hdr := h.drReg
  rw [hno, if_neg Bool.false_ne_true] at hdr
  refine ⟨h.clock_state_eq, Or.inl ?_, ?_, ?_, ?_, ?_, ?_⟩
  · rw [hsame.currIr, hl]
    exact hir
  · rw [hsame.irReg, hl]
    exact hreg
  · rw [hsame.drReg, hl, hscan]
    exact hdr
  · rw [hl, hscan]
    exact (absurd · Bool.false_ne_true)
  · rw [hl, hscan]
    exact (absurd · Bool.false_ne_true)
  · rw [hsame.records, hl]
    exact h.records

theorem captureIr (h : MonitorFollows m l) (hc : c.trstN = true) (hs : l.state = captureIr) :
    MonitorFollows (m.clock c) (l.clock c) := by
  refine h.outside (r := m.irReg) (i := m.currIr) (j := l.ir) (b := []) ?_ ?_ ?_ ?_ ?_ ?_
  · exact .of_data (JtagMonitor.data_clock_quiet hc (by rw [h.state, hs]; rfl))
  · rw [l.clock_live hc, PinLog.act, hs]
  · rw [hs]; rfl
  · rw [hs]; cases c.tms <;> rfl
  · exact h.currIr_eq hs (by decide)
  · exact ShiftRegister.sameTop_zero _ _

theorem shiftIr (h : MonitorFollows m l) (hc : c.trstN = true) (hs : l.state = shiftIr) :
    MonitorFollows (m.clock c) (l.clock c) := by
  refine h.outside (r := ShiftRegister.shiftIn m.irReg c.tdi) (i := m.currIr) (j := l.ir) (b := l.irBits ++ [c.tdi])
    ?_ ?_ ?_ ?_ ?_ ?_
  · exact .of_data (JtagMonitor.data_clock_shiftIr hc (h.state.trans hs))
  · rw [l.clock_live hc, PinLog.act, hs]
  · rw [hs]; rfl
  · rw [hs]; cases c.tms <;> rfl
  · exact h.currIr_eq hs (by decide)
  · rw [ShiftRegister.fill_concat, List.length_append, List.length_singleton]
    exact h.irReg.shiftIn c.tdi

theorem updateIr (h : MonitorFollows m l) (hc : c.trstN = true) (hs : l.state = updateIr) (hlen : 5 ≤ l.irBits.length) :
    MonitorFollows (m.clock c) (l.clock c) := by
  refine h.outside (r := m.irReg) (i := m.irReg) (j := ShiftRegister.fill l.irBits) (b := l.irBits) ?_ ?_ ?_ ?_ ?_ h.irReg
  · exact .of_data (JtagMonitor.data_clock_updateIr hc (h.state.trans hs))
  · rw [l.clock_live hc, PinLog.act, hs]
  · rw [hs]; rfl
  · rw [hs]; cases c.tms <;> rfl
  · exact h.irReg.eq hlen

theorem testLogicReset (h : MonitorFollows m l) (hc : c.trstN = true) (hs : l.state = testLogicReset) :
    MonitorFollows (m.clock c) (l.clock c) := by
  refine h.outside (r := m.irReg) (i := JTAG_IDCODE) (j := JTAG_IDCODE) (b := l.irBits) ?_ ?_ ?_ ?_ rfl h.irReg
  · exact .of_data (JtagMonitor.data_clock_testLogicReset hc (h.state.trans hs))
  · rw [l.clock_live hc, PinLog.act, hs]
  · rw [hs]; rfl
  · rw [hs]; cases c.tms <;> rfl

/-- The same for a period that begins, continues or ends a scan of the data register. -/
theorem inScan (h : MonitorFollows m l) {d : BitVec 64} {o : FourState 64} {n : Nat} {b : List (Bool × FourState 1)}
    {e : List PinEntry} {x : List JtagTxn}
    (hsame : JtagMonitor.SameData (m.clock c) { m with drReg := d, drOutReg := o, drBit := n, records := x })
    (hl : l.clock c = { l with state := tapNextState l.state c.tms, drBits := b, entries := e })
    (hne : l.state ≠ TapState.testLogicReset)
    (hd : d = if PinLog.scanning (tapNextState l.state c.tms) then ShiftRegister.fill (b.map Prod.fst) else 0)
    (ho : PinLog.scanning (tapNextState l.state c.tms) = true →
      o.SameTop b.length (FourState.fill (b.map Prod.snd)))
    (hn : PinLog.scanning (tapNextState l.state c.tms) = true → n = b.length)
    (hx : x = e.filterMap PinEntry.record) : MonitorFollows (m.clock c) (l.clock c) := by
  refine ⟨h.clock_state_eq, Or.inl ?_, ?_, ?_, ?_, ?_, ?_⟩
  · rw [hsame.currIr, hl]
    exact h.currIr_eq rfl hne
  · rw [hsame.irReg, hl]
    exact h.irReg
  · rw [hsame.drReg, hl]
    exact hd
  · rw [hsame.drOutReg, hl]
    exact ho
  · rw [hsame.drBit, hl]
    exact hn
  · rw [hsame.records, hl]
    exact hx

theorem captureDr (h : MonitorFollows m l) (hc : c.trstN = true) (hs : l.state = captureDr) :
    MonitorFollows (m.clock c) (l.clock c) := by
  have hno : PinLog.scanning l.state = false := by rw [hs]; rfl
  have hscan : PinLog.scanning (tapNextState l.state c.tms) = true := by rw [hs]; cases c.tms <;> rfl
  refine h.inScan (d := m.drReg) (o := m.drOutReg) (n := 0) (b := []) (e := l.entries) (x := m.records)
    ?_ ?_ (by rw [hs]; decide) ?_ ?_ (fun _ => rfl) h.records
  · exact .of_data (JtagMonitor.data_clock_captureDr hc (h.state.trans hs))
  · rw [l.clock_live hc, PinLog.act, hs]
  · rw [hscan, h.drReg, hno]
    rfl
  · exact fun _ => FourState.sameTop_zero _ _

theorem shiftDr (h : MonitorFollows m l) (hc : c.trstN = true) (hs : l.state = shiftDr) :
    MonitorFollows (m.clock c) (l.clock c) := by
  have hyes : PinLog.scanning l.state = true := by rw [hs]; rfl
  have hscan : PinLog.scanning (tapNextState l.state c.tms) = true := by rw [hs]; cases c.tms <;> rfl
  refine h.inScan (d := ShiftRegister.shiftIn m.drReg c.tdi) (o := m.drOutReg.shiftIn c.tdo) (n := m.drBit + 1)
    (b := l.drBits ++ [(c.tdi, c.tdo)]) (e := l.entries) (x := m.records)
    ?_ ?_ (by rw [hs]; decide) ?_ ?_ ?_ h.records
  · exact .of_data (JtagMonitor.data_clock_shiftDr hc (h.state.trans hs))
  · rw [l.clock_live hc, PinLog.act, hs]
  · rw [hscan, h.drReg, hyes, if_pos rfl, if_pos rfl, List.map_append, List.map_singleton, ShiftRegister.fill_concat]
  · intro _
    rw [List.map_append, List.map_singleton, FourState.fill_concat, List.length_append, List.length_singleton]
    exact (h.drOutReg hyes).shiftIn c.tdo
  · intro _
    rw [h.drBit hyes, List.length_append, List.length_singleton]

/-- The record of a scan is broadcast where the log completes it. -/
theorem updateDr (h : MonitorFollows m l) (hc : c.trstN = true) (hs : l.state = updateDr) :
    MonitorFollows (m.clock c) (l.clock c) := by
  have hyes : PinLog.scanning l.state = true := by rw [hs]; rfl
  have hscan : PinLog.scanning (tapNextState l.state c.tms) = false := by rw [hs]; cases c.tms <;> rfl
  have hemitted : m.emitted = [PinEntry.scan ⟨l.ir, l.drBits⟩].filterMap PinEntry.record := by
    have hsame := emitTxn_sameTop (h.drOutReg hyes)
    rw [JtagMonitor.emitted, h.currIr_eq hs (by decide), h.drReg, h.drBit hyes, hyes, if_pos rfl, List.filterMap_cons,
      PinEntry.record, JTAG_DMI, JTAG_DTMCS, emitDmiTxn, emitDtmcsTxn, hsame, hsame]
    split_ifs <;> rfl
  refine h.inScan (d := 0) (o := .ofBits 0) (n := 0) (b := l.drBits)
    (e := l.entries ++ [.scan ⟨l.ir, l.drBits⟩]) (x := m.records ++ m.emitted)
    ?_ ?_ (by rw [hs]; decide) ?_ ?_ ?_ ?_
  · exact .of_data (JtagMonitor.data_clock_updateDr hc (h.state.trans hs))
  · rw [l.clock_live hc, PinLog.act, hs]
  · rw [hscan]
    rfl
  · rw [hscan]
    exact (absurd · Bool.false_ne_true)
  · rw [hscan]
    exact (absurd · Bool.false_ne_true)
  · rw [List.filterMap_append, h.records, hemitted]

/-- One period of TCK. -/
theorem clock (h : MonitorFollows m l) (c : Tck) (hir : l.state = TapState.updateIr → 5 ≤ l.irBits.length) :
    MonitorFollows (m.clock c) (l.clock c) := by
  cases hc : c.trstN with
  | false => exact of_reset h.records hc
  | true =>
    cases hs : l.state with
    | captureIr => exact h.captureIr hc hs
    | shiftIr => exact h.shiftIr hc hs
    | updateIr => exact h.updateIr hc hs (hir hs)
    | testLogicReset => exact h.testLogicReset hc hs
    | captureDr => exact h.captureDr hc hs
    | shiftDr => exact h.shiftDr hc hs
    | updateDr => exact h.updateDr hc hs
    | _ => exact h.quiet hc (by rw [hs]; rfl) (by rw [hs]; decide)

end MonitorFollows

/-! ## What both read off a scan -/

/-- The wider register holds the narrower one, 23 places up. -/
theorem getLsbD_fill_wide (bits : List Bool) (i : Nat) (hi : i ≤ 40) :
    (ShiftRegister.fill bits : BitVec 64).getLsbD (23 + i) = (ShiftRegister.fill bits : BitVec 41).getLsbD i := by
  have hplace : 63 - (23 + i) = 40 - i := by omega
  rw [ShiftRegister.getLsbD_fill, ShiftRegister.getLsbD_fill, hplace, decide_eq_true (by omega), decide_eq_true hi]

theorem extract_fill_wide (bits : List Bool) :
    ((ShiftRegister.fill bits : BitVec 64) >>> 23).extractLsb' 0 2 =
      (ShiftRegister.fill bits : BitVec 41).extractLsb' 0 2 := by
  apply BitVec.eq_of_getLsbD_eq
  intro i hi
  rw [BitVec.getLsbD_extractLsb', BitVec.getLsbD_extractLsb', Nat.zero_add, BitVec.getLsbD_ushiftRight,
    getLsbD_fill_wide _ _ (by omega)]

/-- In a scan of 41 bits the monitor and the module read the same operation and the same status. -/
theorem record_of_full_scan {s : DrScan} (hir : s.ir = JTAG_DMI) (hlen : s.bits.length = 41) :
    ∃ r, (PinEntry.scan s).record = some r ∧ r.dmiOp = s.registers.dmiOpIn ∧
      r.dmiStatus = s.registers.dmiStatusOut := by
  have hshift : alignShift s.bits.length = 23 := by rw [hlen]; rfl
  refine ⟨emitDmiTxn (ShiftRegister.fill (s.bits.map Prod.fst)) (FourState.fill (s.bits.map Prod.snd))
    s.bits.length, ?_, ?_, ?_⟩
  · rw [PinEntry.record, if_pos hir]
  · change ((ShiftRegister.fill (s.bits.map Prod.fst) : BitVec 64) >>> alignShift s.bits.length).extractLsb' 0 2 = _
    rw [hshift, extract_fill_wide]
    rfl
  · change ((FourState.fill (s.bits.map Prod.snd) : FourState 64).shiftRight (alignShift s.bits.length)).extract 0 2 =
      (FourState.fill (s.bits.map Prod.snd) : FourState 41).extract 0 2
    rw [hshift, FourState.shiftRight, FourState.extract, FourState.extract, FourState.value_fill, FourState.unknown_fill,
      FourState.value_fill, FourState.unknown_fill, extract_fill_wide, extract_fill_wide]

/-! ## Every edge -/

theorem JtagMonitor.negedge_eq (m : JtagMonitor) (c : Tck) :
    m.negedge c = { m with drOutReg := (m.negedge c).drOutReg } := by
  rw [negedge]
  split_ifs <;> rfl

namespace PinWatch

/-- The monitor once TCK is low again. -/
def settled (b : PinWatch) : JtagMonitor := if b.pins.tck then b.monitor.negedge b.pins.last else b.monitor

/-- What holds between two edges. -/
structure Inv (b : PinWatch) : Prop where
  checker : b.checker = b.log.checker
  records : b.monitor.records = b.log.entries.filterMap PinEntry.record
  seen : b.pins.unseen = false → MonitorFollows b.settled b.log
  held : b.pins.unseen = true → b.pins.trstN = false
  low : b.pins.trstN = false → b.log.state = testLogicReset
  lastLow : b.pins.last.trstN = false → b.log.state = testLogicReset ∨ b.pins.tck = false

namespace Inv

variable {b : PinWatch}

theorem tckRises (h : b.Inv) {tms tdi : Bool} {tdo : FourState 1} (hok : b.Allows (.tckRises tms tdi tdo)) :
    (b.step (.tckRises tms tdi tdo)).Inv := by
  obtain ⟨hlow, hir⟩ := hok
  have hfollows : MonitorFollows (b.monitor.clock (b.pins.wires tms tdi tdo))
      (b.log.clock (b.pins.wires tms tdi tdo)) := by
    cases hn : b.pins.trstN with
    | false => exact .of_reset h.records hn
    | true =>
      have hseen : b.pins.unseen = false := by
        by_contra hunseen
        rw [h.held (Bool.not_eq_false _ ▸ hunseen)] at hn
        cases hn
      have hm := h.seen hseen
      rw [settled, hlow, if_neg Bool.false_ne_true] at hm
      exact hm.clock _ hir
  have hreset : b.pins.trstN = false → (b.log.clock (b.pins.wires tms tdi tdo)).state = testLogicReset := by
    intro hn
    rw [PinLog.clock_state, tapClock]
    simp [Pins.wires, hn]
  refine ⟨?_, ?_, fun _ => hfollows, fun hunseen => ?_, hreset, fun hn => .inl (hreset hn)⟩
  · change b.checker.step (.posedge (b.pins.wires tms tdi tdo) tdo) =
      (b.log.step (.posedge (b.pins.wires tms tdi tdo) tdo)).checker
    rw [h.checker, PinLog.checker_step]
  · have hrecords := hfollows.records
    rw [JtagMonitor.clock, JtagMonitor.negedge_eq] at hrecords
    exact hrecords
  · cases hunseen

theorem tckFalls (h : b.Inv) {tdo : FourState 1} (hok : b.Allows (.tckFalls tdo)) :
    (b.step (.tckFalls tdo)).Inv := by
  obtain ⟨hhigh, htdo⟩ := hok
  refine ⟨h.checker, ?_, fun hseen => ?_, h.held, h.low, fun _ => .inr rfl⟩
  · change (b.monitor.negedge _).records = _
    rw [JtagMonitor.negedge_eq]
    exact h.records
  · have hm := h.seen hseen
    rw [settled, if_pos hhigh, JtagMonitor.negedge_eq] at hm
    change MonitorFollows (b.monitor.negedge (b.pins.wires b.pins.last.tms b.pins.last.tdi tdo)) b.log
    rw [JtagMonitor.negedge_eq]
    refine hm.with_drOutReg fun hscan => ?_
    -- in a scan nTRST is high at both edges
    have hne : b.log.state ≠ testLogicReset := by
      intro heq
      rw [heq] at hscan
      cases hscan
    have hnow : b.pins.trstN = true := by
      by_contra hn
      exact hne (h.low (Bool.not_eq_true _ ▸ hn))
    have hlast : b.pins.last.trstN = true := by
      by_contra hn
      rcases h.lastLow (Bool.not_eq_true _ ▸ hn) with heq | hlow
      · exact hne heq
      · rw [hhigh] at hlow
        cases hlow
    have hsame : b.pins.wires b.pins.last.tms b.pins.last.tdi tdo = b.pins.last := by
      rw [Pins.wires, hnow, ← hlast, htdo]
    rw [hsame]

theorem trstFalls (h : b.Inv) : (b.step .trstFalls).Inv := by
  refine ⟨?_, ?_, fun hseen => ?_, fun _ => rfl, fun _ => rfl, fun _ => .inl rfl⟩
  · change b.checker.step .trstFalls = (b.log.step .trstFalls).checker
    rw [h.checker, PinLog.checker_step]
  · change b.monitor.records = (b.log.entries ++ [PinEntry.trst]).filterMap PinEntry.record
    rw [List.filterMap_append, h.records]
    exact (List.append_nil _).symm
  · cases hseen

theorem trstRises (h : b.Inv) (hok : b.Allows .trstRises) : (b.step .trstRises).Inv := by
  obtain ⟨-, hseen⟩ := hok
  refine ⟨h.checker, h.records, h.seen, fun hunseen => ?_, fun hn => ?_, h.lastLow⟩
  · cases hunseen.symm.trans hseen
  · cases hn

theorem step (h : b.Inv) {e : PinEdge} (hok : b.Allows e) : (b.step e).Inv := by
  cases e with
  | tckRises tms tdi tdo => exact h.tckRises hok
  | tckFalls tdo => exact h.tckFalls hok
  | trstFalls => exact h.trstFalls
  | trstRises => exact h.trstRises hok

end Inv

theorem inv_init : Inv {} where
  checker := rfl
  records := rfl
  seen _ :=
    { state := rfl
      currIr := .inr rfl
      irReg := ShiftRegister.sameTop_zero _ _
      drReg := rfl
      drOutReg := (absurd · Bool.false_ne_true)
      drBit := (absurd · Bool.false_ne_true)
      records := rfl }
  held := (absurd · Bool.false_ne_true)
  low _ := rfl
  lastLow _ := .inl rfl

theorem inv_run (es : List PinEdge) (h : Runs.Always step Allows {} es) : (Runs.run step {} es).Inv :=
  Runs.run_invariant (P := Inv) (fun _ _ hb hok => hb.step hok) es {} inv_init h

theorem settled_state (b : PinWatch) : b.settled.state = b.monitor.state := by
  rw [settled]
  split_ifs
  · exact JtagMonitor.negedge_state _ _
  · rfl

theorem settled_currIr (b : PinWatch) : b.settled.currIr = b.monitor.currIr := by
  rw [settled]
  split_ifs
  · rw [JtagMonitor.negedge_eq]
  · rfl

end PinWatch

/-- **The monitor and the assertions agree**, at every moment: whatever the edges of TCK and nTRST, as long as TDO
holds through the high phase of TCK, every fall of nTRST lasts until a rising edge of TCK, and no scan of the
instruction register ends with fewer than five bits.  They are in the same state, unless nTRST has fallen since the
last rising edge, and outside Test-Logic-Reset always, and there under the same instruction; the monitor's records are
those of the scans of DMI and DTMCS, in their order; a scan of 41 bits has one operation and one status for both. -/
theorem monitor_checker_agree (es : List PinEdge) (h : Runs.Always PinWatch.step PinWatch.Allows {} es) :
    let b := Runs.run PinWatch.step {} es
    (b.pins.unseen = false → b.monitor.state = b.checker.state) ∧
    (b.checker.state ≠ testLogicReset →
      b.monitor.state = b.checker.state ∧ b.monitor.currIr = b.checker.currIr) ∧
    b.monitor.records = b.log.entries.filterMap PinEntry.record ∧
    ∀ s, .scan s ∈ b.log.entries → s.ir = JTAG_DMI → s.bits.length = 41 →
      ∃ r ∈ b.monitor.records, r.dmiOp = s.registers.dmiOpIn ∧ r.dmiStatus = s.registers.dmiStatusOut := by
  intro b
  have hinv : b.Inv := PinWatch.inv_run es h
  have hstate : b.checker.state = b.log.state := by rw [hinv.checker]; rfl
  have hsame : b.pins.unseen = false → b.monitor.state = b.checker.state := by
    intro hseen
    rw [hstate, ← (hinv.seen hseen).state, PinWatch.settled_state]
  refine ⟨hsame, fun hne => ?_, hinv.records, ?_⟩
  · have hseen : b.pins.unseen = false := by
      by_contra hunseen
      exact hne (hstate.trans (hinv.low (hinv.held (Bool.not_eq_false _ ▸ hunseen))))
    refine ⟨hsame hseen, ?_⟩
    have hir := (hinv.seen hseen).currIr_eq rfl (hstate ▸ hne)
    rw [← PinWatch.settled_currIr, hir, hinv.checker]
    rfl
  · intro s hs hdmi hlen
    obtain ⟨r, hr, hfields⟩ := record_of_full_scan hdmi hlen
    exact ⟨r, by rw [hinv.records]; exact List.mem_filterMap.mpr ⟨_, hs, hr⟩, hfields⟩

/-- The edges of a period. -/
def Tck.edges (c : Tck) : List PinEdge := [.tckRises c.tms c.tdi c.tdo, .tckFalls c.tdo]

/-- A write of DMI by the driver; then nTRST falls while TCK is high and rises after the next rising edge, before TCK
has fallen. -/
def writeThenReset : List PinEdge :=
  let t : JtagTxn := JtagTxn.packDmi { phase := .irThenDr, dmiAddr := 0x10#7, dmiWdata := 1#32, dmiOp := DMI_WRITE }
  let cs := ((JtagDriver.initialReset fun _ => .ofBits 0).driveAll (fun _ => .ofBits 0) [t]).2.cycles
  (cs.takeWhile fun c => !c.trstN).flatMap Tck.edges ++ .trstRises ::
    (cs.dropWhile fun c => !c.trstN).flatMap Tck.edges ++
    [.tckRises true false (.ofBits 0), .trstFalls, .tckFalls (.ofBits 0), .tckRises true false (.ofBits 0), .trstRises,
      .tckFalls (.ofBits 0)]

theorem monitor_checker_agree_write :
    let b := Runs.run PinWatch.step {} writeThenReset
    b.monitor.state = b.checker.state ∧ b.monitor.records = b.log.entries.filterMap PinEntry.record ∧
      b.monitor.records.map (fun r => (r.dmiOp, r.dmiAddr)) = [(DMI_WRITE, 0x10#7)] := by
  have hallows : Runs.Always PinWatch.step PinWatch.Allows {} writeThenReset := by decide +kernel
  have hseen : (Runs.run PinWatch.step {} writeThenReset).pins.unseen = false := by decide +kernel
  have hone : (Runs.run PinWatch.step {} writeThenReset).monitor.records.map (fun r => (r.dmiOp, r.dmiAddr)) =
      [(DMI_WRITE, 0x10#7)] := by decide +kernel
  obtain ⟨hstate, -, hrecords, -⟩ := monitor_checker_agree writeThenReset hallows
  exact ⟨hstate hseen, hrecords, hone⟩

/-- A pulse of nTRST that no edge of TCK sees resets the module and not the monitor. -/
example :
    let b := Runs.run PinWatch.step {}
      ([.tckRises true false (.ofBits 0), .tckFalls (.ofBits 0), .trstRises] ++
        (⟨true, false, false, .ofBits 0⟩ : Tck).edges ++ [.trstFalls, .trstRises])
    b.checker.state = testLogicReset ∧ b.monitor.state = runTestIdle := by
  decide

/-- After a scan of the instruction register with no bits the monitor still has DMI, and the module has no
instruction at all. -/
example :
    let walk : List (Bool × Bool) :=
      [(false, false), (true, false), (true, false), (false, false), (false, false), (false, true), (false, false),
        (false, false), (false, false), (true, true), (true, false), (true, false), (true, false), (false, false),
        (true, false), (true, false), (false, false)]
    let b := Runs.run PinWatch.step {}
      (.trstRises :: walk.flatMap fun p => (⟨true, p.1, p.2, .ofBits 0⟩ : Tck).edges)
    b.monitor.currIr = JTAG_DMI ∧ b.checker.currIr = 0 := by
  decide

end RiscvDbg

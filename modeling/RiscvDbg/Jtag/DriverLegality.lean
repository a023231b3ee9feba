import RiscvDbg.Jtag.RoundTrip
import RiscvDbg.Jtag.StickyStatus

/-!
# The driver under the protocol assertions

What the stimulus half of `dmi_assertions` makes of a whole session of `jtag_driver`.

* `JtagDriver.pins` — the rising edges the driver has driven, with TDO at each as a parameter; `JtagDriver.log` —
  the reading of them.
* `Scanned` — the driver is in Run-Test/Idle, the instruction and the completed scans are known; each task takes
  such a driver to another.
* `driver_scans_legal` — whatever comes back on TDO, the assertions on the stimulus stay silent through the session
  exactly if every transaction that scans DMI has 41 bits and an operation that is not reserved.
-/

set_option autoImplicit false

namespace RiscvDbg

open TapState

/-- The assertions on what the debugger drives. -/
def DmiCheck.onStimulus (k : DmiCheck) : Bool :=
  match k with
  | .opLegal | .noOverlappingScan | .notAbortedByTrst | .scanLength => true
  | .statusLegal | .stickyPersists => false

namespace JtagDriver

/-- The rising edges of TCK so far; `rise` is TDO at each of them. -/
def pins (rise : Nat → FourState 1) (d : JtagDriver) : List PinEvent :=
  d.cycles.zipIdx.map fun p => .posedge p.1 (rise p.2)

/-- The reading of the pins so far. -/
def log (rise : Nat → FourState 1) (d : JtagDriver) : PinLog := PinLog.after (d.pins rise)

variable (tdo rise : Nat → FourState 1) {d : JtagDriver}

theorem pins_driveBitNotdo (tms tdi : Bool) :
    (d.driveBitNotdo tdo tms tdi).pins rise =
      d.pins rise ++ [.posedge (d.wires tdo tms tdi) (rise d.cycles.length)] := by
  simp [pins, driveBitNotdo, List.zipIdx_append]

theorem log_driveBitNotdo (h : d.trstN = true) (tms tdi : Bool) :
    (d.driveBitNotdo tdo tms tdi).log rise =
      { (d.log rise).act tdi (rise d.cycles.length) with state := tapNextState (d.log rise).state tms } := by
  rw [log, pins_driveBitNotdo, PinLog.after, Runs.run_concat]
  change (d.log rise).step _ = _
  simp [PinLog.step, wires, h]

@[simp] theorem trstN_driveBitNotdo (tms tdi : Bool) : (d.driveBitNotdo tdo tms tdi).trstN = d.trstN := rfl

theorem trstN_driveBits (tms : List Bool) (tdi : Bool) : (d.driveBits tdo tms tdi).trstN = d.trstN := by
  induction tms generalizing d with
  | nil => rfl
  | cons b tms ih => exact ih

/-- The driver is between transactions. -/
structure Scanned (d : JtagDriver) (ir : BitVec 5) (es : List PinEntry) : Prop where
  trstN : d.trstN = true
  state : (d.log rise).state = runTestIdle
  ir : (d.log rise).ir = ir
  entries : (d.log rise).entries = es

variable {ir : BitVec 5} {es : List PinEntry}

theorem Scanned.driveTapReset (h : Scanned rise d ir es) : Scanned rise (d.driveTapReset tdo) JTAG_IDCODE es := by
  have hlog : (d.driveTapReset tdo).log rise = { d.log rise with ir := JTAG_IDCODE } := by
    simp [JtagDriver.driveTapReset, driveBits, log_driveBitNotdo, List.replicate, h.trstN, h.state, PinLog.act, tapNextState]
  refine ⟨(trstN_driveBits tdo _ _).trans h.trstN, ?_, ?_, ?_⟩
  · rw [hlog, ← h.state]
  · rw [hlog]
  · rw [hlog, ← h.entries]

theorem log_driveUpdateIr (h : d.trstN = true) (hs : (d.log rise).state = exit1Ir) (pause : Bool) :
    (d.driveUpdate tdo pause).log rise =
      { d.log rise with state := runTestIdle, ir := ShiftRegister.fill (d.log rise).irBits } := by
  cases pause <;>
    simp [driveUpdate, drivePause, driveBits, log_driveBitNotdo, h, hs, PinLog.act, tapNextState]

theorem log_driveUpdateDr (h : d.trstN = true) (hs : (d.log rise).state = exit1Dr) (pause : Bool) :
    (d.driveUpdate tdo pause).log rise =
      { d.log rise with
        state := runTestIdle, entries := (d.log rise).entries ++ [.scan ⟨(d.log rise).ir, (d.log rise).drBits⟩] } := by
  cases pause <;>
    simp [driveUpdate, drivePause, driveBits, log_driveBitNotdo, h, hs, PinLog.act, tapNextState]

theorem trstN_driveUpdate (pause : Bool) : (d.driveUpdate tdo pause).trstN = d.trstN := by
  cases pause <;> rfl

theorem Scanned.driveIr (h : Scanned rise d ir es) {t : JtagTxn} (hlen : t.irLen = 5) :
    Scanned rise (d.driveIr tdo t) t.irVal es := by
  let d₁ := d.driveBits tdo [true, true, false, false] false
  have ht₁ : d₁.trstN = true := (trstN_driveBits tdo _ _).trans h.trstN
  have hlog₁ : d₁.log rise = { d.log rise with state := shiftIr, irBits := [] } := by
    simp [d₁, driveBits, log_driveBitNotdo, h.trstN, h.state, PinLog.act, tapNextState]
  let d₂ := (List.range 5).foldl (fun d i => d.driveIrBit tdo t i) d₁
  have ht₂ : d₂.trstN = true := ht₁
  have hlog₂ : d₂.log rise =
      { d.log rise with state := exit1Ir, irBits := (List.range 5).map t.irVal.getLsbD } := by
    simp [d₂, List.range_succ, driveIrBit, log_driveBitNotdo, ht₁, hlog₁, hlen, PinLog.act, tapNextState]
  have heq : d.driveIr tdo t = d₂.driveUpdate tdo t.pause := by
    rw [JtagDriver.driveIr, hlen]
  have hlog₃ := log_driveUpdateIr tdo rise ht₂ (by rw [hlog₂]) t.pause
  rw [← heq, hlog₂, ShiftRegister.fill_bits] at hlog₃
  refine ⟨?_, ?_, ?_, ?_⟩
  · rw [heq, trstN_driveUpdate, ht₂]
  · rw [hlog₃]
  · rw [hlog₃]
  · rw [hlog₃, ← h.entries]

/-- The first `k` iterations of the loop of `drive_dr`. -/
structure DrShifted (t : JtagTxn) (k : Nat) (l : PinLog) (d' : JtagDriver) : Prop where
  trstN : d'.trstN = true
  state : (d'.log rise).state = if k < t.drLen then shiftDr else exit1Dr
  bits : (d'.log rise).drBits.map Prod.fst = (List.range k).map t.drDataIn.getLsbD
  ir : (d'.log rise).ir = l.ir
  entries : (d'.log rise).entries = l.entries

theorem DrShifted.step {t : JtagTxn} {k : Nat} {l : PinLog} {p : FourState 64 × JtagDriver} (hk : k < t.drLen)
    (h : DrShifted rise t k l p.2) : DrShifted rise t (k + 1) l (driveDrBit tdo t p k).2 := by
  have hs : (p.2.log rise).state = shiftDr := by rw [h.state, if_pos hk]
  have hlog := log_driveBitNotdo tdo rise h.trstN (k == t.drLen - 1) (t.drDataIn.getLsbD k)
  rw [PinLog.act, hs] at hlog
  refine ⟨h.trstN, ?_, ?_, ?_, ?_⟩
  · refine (congrArg PinLog.state hlog).trans ?_
    rcases Nat.lt_or_ge (k + 1) t.drLen with hlt | hge
    · rw [if_pos hlt, beq_eq_false_iff_ne.mpr (by omega)]
      rfl
    · rw [if_neg (by omega), beq_iff_eq.mpr (by omega)]
      rfl
  · refine (congrArg (fun l => l.drBits.map Prod.fst) hlog).trans ?_
    rw [List.range_succ, List.map_append, List.map_append, ← h.bits]
    rfl
  · exact (congrArg PinLog.ir hlog).trans h.ir
  · exact (congrArg PinLog.entries hlog).trans h.entries

theorem drShifted {t : JtagTxn} {d₁ : JtagDriver} (hmin : 1 ≤ t.drLen) (h : d₁.trstN = true)
    (hs : (d₁.log rise).state = shiftDr) (hbits : (d₁.log rise).drBits = []) (out : FourState 64) :
    ∀ k ≤ t.drLen, DrShifted rise t k (d₁.log rise) ((List.range k).foldl (driveDrBit tdo t) (out, d₁)).2 := by
  intro k
  induction k with
  | zero => intro _; exact ⟨h, by rw [if_pos (by omega)]; exact hs, by rw [List.range_zero]; simp [hbits], rfl, rfl⟩
  | succ k ih =>
    intro hk
    rw [List.range_succ, List.foldl_concat]
    exact (ih (by omega)).step tdo rise (by omega)

/-- The entry of a transaction's scan: the instruction it finds and the bits it drives. -/
structure ScanOf (ir : BitVec 5) (t : JtagTxn) (s : DrScan) : Prop where
  ir : s.ir = ir
  bits : s.bits.map Prod.fst = (List.range t.drLen).map t.drDataIn.getLsbD

theorem Scanned.driveDr (h : Scanned rise d ir es) {t : JtagTxn} (hmin : 1 ≤ t.drLen) :
    ∃ s, ScanOf ir t s ∧ Scanned rise (d.driveDr tdo t).2 ir (es ++ [.scan s]) := by
  let d₁ := d.driveBits tdo [true, false, false] false
  have ht₁ : d₁.trstN = true := (trstN_driveBits tdo _ _).trans h.trstN
  have hlog₁ : d₁.log rise = { d.log rise with state := shiftDr, drBits := [] } := by
    simp [d₁, driveBits, log_driveBitNotdo, h.trstN, h.state, PinLog.act, tapNextState]
  let p := (List.range t.drLen).foldl (driveDrBit tdo t) (.ofBits 0, d₁)
  have h₂ : DrShifted rise t t.drLen (d₁.log rise) p.2 :=
    drShifted tdo rise hmin ht₁ (by rw [hlog₁]) (by rw [hlog₁]) _ _ (Nat.le_refl _)
  have hlog₃ := log_driveUpdateDr tdo rise h₂.trstN (h₂.state.trans (if_neg (Nat.lt_irrefl _))) t.pause
  have hir : (p.2.log rise).ir = ir := h₂.ir.trans ((congrArg PinLog.ir hlog₁).trans h.ir)
  have hes : (p.2.log rise).entries = es := h₂.entries.trans ((congrArg PinLog.entries hlog₁).trans h.entries)
  refine ⟨⟨ir, (p.2.log rise).drBits⟩, ⟨rfl, h₂.bits⟩, ?_, ?_, ?_, ?_⟩
  · exact (trstN_driveUpdate tdo t.pause).trans h₂.trstN
  · exact congrArg PinLog.state hlog₃
  · exact (congrArg PinLog.ir hlog₃).trans hir
  · exact (congrArg PinLog.entries hlog₃).trans (by rw [hir, hes])

/-- The entries of a transaction. -/
def EntriesOf (ir : BitVec 5) (t : JtagTxn) (new : List PinEntry) : Prop :=
  if t.scansDr then ∃ s, new = [.scan s] ∧ ScanOf (t.latched ir) t s else new = []

theorem Scanned.driveTxn (h : Scanned rise d ir es) {t : JtagTxn} (ht : t.Drivable) :
    ∃ new, EntriesOf ir t new ∧ Scanned rise (d.driveTxn tdo t).2 (t.latched ir) (es ++ new) := by
  unfold JtagDriver.driveTxn EntriesOf
  cases hp : t.phase with
  | irOnly =>
    have hno : t.scansDr = false := by rw [JtagTxn.scansDr, hp]; rfl
    have hir : t.latched ir = t.irVal := by rw [JtagTxn.latched, hp]
    refine ⟨[], by rw [hno]; rfl, ?_⟩
    rw [List.append_nil, hir]
    exact h.driveIr tdo rise ht.irLen
  | drOnly =>
    have hyes : t.scansDr = true := by rw [JtagTxn.scansDr, hp]; rfl
    have hir : t.latched ir = ir := by rw [JtagTxn.latched, hp]
    obtain ⟨s, hs, hdone⟩ := h.driveDr tdo rise (ht.drLen hyes).1
    exact ⟨[.scan s], by rw [if_pos hyes, hir]; exact ⟨s, rfl, hs⟩, by rw [hir]; exact hdone⟩
  | irThenDr =>
    have hyes : t.scansDr = true := by rw [JtagTxn.scansDr, hp]; rfl
    have hir : t.latched ir = t.irVal := by rw [JtagTxn.latched, hp]
    obtain ⟨s, hs, hdone⟩ := (h.driveIr tdo rise ht.irLen).driveDr tdo rise (ht.drLen hyes).1
    exact ⟨[.scan s], by rw [if_pos hyes, hir]; exact ⟨s, rfl, hs⟩, by rw [hir]; exact hdone⟩
  | tapReset =>
    have hno : t.scansDr = false := by rw [JtagTxn.scansDr, hp]; rfl
    have hir : t.latched ir = JTAG_IDCODE := by rw [JtagTxn.latched, hp]
    refine ⟨[], by rw [hno]; rfl, ?_⟩
    rw [List.append_nil, hir]
    exact h.driveTapReset tdo rise
  | tmsWalk => exact absurd hp ht.phase

end JtagDriver

/-! ## Legal scans -/

/-- The entry is no DMI scan, or one of 41 bits with an operation that is not reserved. -/
def PinEntry.legal : PinEntry → Bool
  | .scan s => !s.isDmi || (s.registers.drBits == 41 && s.registers.dmiOpIn != DMI_OP_RESERVED)
  | .trst => true

/-- The transaction scans 41 bits, and their operation is not reserved. -/
def JtagTxn.legalScan (t : JtagTxn) : Bool :=
  t.drLen == 41 && t.drDataIn.extractLsb' 0 2 != DMI_OP_RESERVED

/-- The transactions that scan DMI, if `ir` is the instruction before the first. -/
def dmiTxns : BitVec 5 → List JtagTxn → List JtagTxn
  | _, [] => []
  | ir, t :: ts => (if t.scansDr && t.latched ir == JTAG_DMI then [t] else []) ++ dmiTxns (t.latched ir) ts

theorem legal_of_scanOf {ir : BitVec 5} {t : JtagTxn} {s : DrScan} (hs : JtagDriver.ScanOf ir t s)
    (hmin : 1 ≤ t.drLen) (hmax : t.drLen ≤ 64) :
    (PinEntry.scan s).legal = (!(ir == JTAG_DMI) || t.legalScan) := by
  have hlen : s.bits.length = t.drLen := by
    have := congrArg List.length hs.bits
    rwa [List.length_map, List.length_map, List.length_range] at this
  have hcount := s.registers_drBits (by omega)
  have hbits : ∀ n < 2 ^ 32, (s.registers.drBits == BitVec.ofNat 32 n) = (t.drLen == n) := by
    intro n hn
    rw [Bool.eq_iff_iff, beq_iff_eq, beq_iff_eq, ← BitVec.toNat_inj, hcount, hlen, BitVec.toNat_ofNat,
      Nat.mod_eq_of_lt hn]
  have hdmi : s.isDmi = (ir == JTAG_DMI) := by
    change (s.ir == JTAG_DMI && !(s.registers.drBits == BitVec.ofNat 32 0)) = _
    rw [hbits 0 (by decide), hs.ir, beq_eq_false_iff_ne.mpr (by omega : t.drLen ≠ 0)]
    simp
  have hop : t.drLen = 41 → s.registers.dmiOpIn = t.drDataIn.extractLsb' 0 2 := by
    intro h41
    apply BitVec.eq_of_getLsbD_eq
    intro i hi
    have hread := s.getLsbD_dmiOpIn (hlen.trans h41) i hi
    have htdi : s.tdi i = t.drDataIn.getLsbD i := by
      rw [DrScan.tdi, ← List.getElem?_map, hs.bits, List.getElem?_map, List.getElem?_range (by omega)]
      rfl
    rw [hread, htdi, BitVec.getLsbD_extractLsb', decide_eq_true hi, Bool.true_and, Nat.zero_add]
  change (!s.isDmi || (s.registers.drBits == BitVec.ofNat 32 41 && _)) = _
  rw [hdmi, hbits 41 (by decide), JtagTxn.legalScan]
  by_cases h41 : t.drLen = 41
  · rw [hop h41]
  · rw [beq_eq_false_iff_ne.mpr h41, Bool.false_and, Bool.false_and]

/-- Driving a list of transactions adds legal entries exactly if the scans of DMI among them are legal. -/
theorem JtagDriver.Scanned.driveAll (tdo rise : Nat → FourState 1) :
    ∀ (ts : List JtagTxn) {d : JtagDriver} {ir : BitVec 5} {es : List PinEntry}, (∀ t ∈ ts, t.Drivable) →
      Scanned rise d ir es →
      ((∀ x ∈ ((d.driveAll tdo ts).2.log rise).entries, x.legal = true) ↔
        (∀ x ∈ es, x.legal = true) ∧ ∀ t ∈ dmiTxns ir ts, t.legalScan = true) := by
  intro ts
  induction ts with
  | nil =>
    intro d ir es _ h
    rw [JtagDriver.driveAll, h.entries, dmiTxns]
    simp
  | cons t ts ih =>
    intro d ir es hts h
    have ht := hts t List.mem_cons_self
    obtain ⟨new, hnew, hdone⟩ := h.driveTxn tdo rise ht
    have hfirst : (∀ x ∈ new, x.legal = true) ↔
        ∀ t' ∈ (if t.scansDr && t.latched ir == JTAG_DMI then [t] else []), t'.legalScan = true := by
      unfold EntriesOf at hnew
      cases hscan : t.scansDr with
      | false =>
        rw [hscan, if_neg Bool.false_ne_true] at hnew
        simp [hnew]
      | true =>
        rw [hscan, if_pos rfl] at hnew
        obtain ⟨s, rfl, hs⟩ := hnew
        rw [List.forall_mem_singleton, legal_of_scanOf hs (ht.drLen hscan).1 (ht.drLen hscan).2]
        cases t.latched ir == JTAG_DMI <;> simp
    change (∀ x ∈ (((d.driveTxn tdo t).2.driveAll tdo ts).2.log rise).entries, _) ↔ _
    rw [ih (fun t' ht' => hts t' (List.mem_cons_of_mem t ht')) hdone, dmiTxns, List.forall_mem_append,
      List.forall_mem_append, hfirst, and_assoc]

/-! ## Runs -/

/-- At a rising edge the assertions on the stimulus stay silent exactly if the entry it adds is legal. -/
theorem PinLog.onStimulus_iff (l : PinLog) (c : Tck) (r : FourState 1) :
    (∀ k : DmiCheck, k.onStimulus = true → l.checker.fails (.posedge c r) k = false) ↔
      ∀ x ∈ l.added (.posedge c r), x.legal = true := by
  have hoverlap : l.checker.fails (.posedge c r) .noOverlappingScan = false := by
    change (c.trstN && (l.state == captureDr && l.midScan)) = false
    rw [l.not_midScan_captureDr, Bool.and_false]
  have hall : (∀ k : DmiCheck, k.onStimulus = true → l.checker.fails (.posedge c r) k = false) ↔
      l.checker.fails (.posedge c r) .opLegal = false ∧ l.checker.fails (.posedge c r) .scanLength = false := by
    constructor
    · intro h
      exact ⟨h .opLegal rfl, h .scanLength rfl⟩
    · rintro ⟨hop, hlen⟩ k hk
      cases k with
      | opLegal => exact hop
      | scanLength => exact hlen
      | noOverlappingScan => exact hoverlap
      | notAbortedByTrst =>
        change (c.trstN && false) = false
        exact Bool.and_false _
      | statusLegal => cases hk
      | stickyPersists => cases hk
  rw [hall]
  cases hc : c.trstN with
  | false => simp [DmiAssertions.fails, added, hc, PinEntry.legal]
  | true =>
    by_cases hs : l.state = updateDr
    · let s : DrScan := ⟨l.ir, l.drBits⟩
      have hupdate : l.checker.dmiUpdate = s.isDmi := by
        change (l.state == updateDr && _ && _) = _
        rw [hs]
        rfl
      have hadded : l.added (.posedge c r) = [.scan s] := by simp [added, hc, hs, s]
      have hop : l.checker.fails (.posedge c r) .opLegal = (s.isDmi && s.registers.dmiOpIn == DMI_OP_RESERVED) := by
        change (c.trstN && (l.checker.dmiUpdate && _)) = _
        rw [hc, hupdate]
        rfl
      have hlen : l.checker.fails (.posedge c r) .scanLength = (s.isDmi && s.registers.drBits != 41) := by
        change (c.trstN && (l.checker.dmiUpdate && _)) = _
        rw [hc, hupdate]
        rfl
      rw [hadded, List.forall_mem_singleton, hop, hlen, PinEntry.legal]
      simp only [bne]
      cases s.isDmi <;> cases s.registers.dmiOpIn == DMI_OP_RESERVED <;> cases s.registers.drBits == 41 <;> simp
    · have hupdate : l.checker.dmiUpdate = false := by
        change (l.state == updateDr && _ && _) = _
        rw [beq_eq_false_iff_ne.mpr hs]
        rfl
      simp [DmiAssertions.fails, added, hc, hs, hupdate]

/-- Assertions that look at one entry at a time look at all of them in a run of rising edges. -/
theorem always_onStimulus_iff (events : List PinEvent) (hedges : ∀ e ∈ events, ∃ c r, e = .posedge c r) :
    Runs.Always DmiAssertions.step (fun a e => ∀ k : DmiCheck, k.onStimulus = true → a.fails e k = false) {} events ↔
      ∀ x ∈ (PinLog.after events).entries, x.legal = true := by
  induction events using List.reverseRecOn with
  | nil => exact iff_of_true trivial (by simp [PinLog.after])
  | append_singleton events e ih =>
    obtain ⟨c, r, rfl⟩ := hedges e (by simp)
    have hafter : PinLog.after (events ++ [.posedge c r]) = (PinLog.after events).step (.posedge c r) :=
      Runs.run_concat _ _ _ _
    have hregisters : Runs.run DmiAssertions.step {} events = (PinLog.after events).checker := run_eq_checker events
    rw [Runs.always_append, ih fun e he => hedges e (List.mem_append_left _ he), hafter, PinLog.entries_step,
      List.forall_mem_append, Runs.always_cons, hregisters, PinLog.onStimulus_iff,
      and_iff_left (Runs.always_nil _)]

namespace JtagDriver

theorem initialReset_scanned (tdo rise : Nat → FourState 1) :
    Scanned rise (initialReset tdo) JTAG_IDCODE (List.replicate 5 .trst) where
  trstN := rfl
  state := rfl
  ir := rfl
  entries := rfl

theorem pins_posedge (rise : Nat → FourState 1) (d : JtagDriver) : ∀ e ∈ d.pins rise, ∃ c r, e = .posedge c r := by
  intro e he
  obtain ⟨p, -, rfl⟩ := List.mem_map.mp he
  exact ⟨p.1, rise p.2, rfl⟩

end JtagDriver

/-- **The driver's scans are legal.**  From the initial reset on, for every list of transactions and whatever comes
back on TDO: no assertion on the stimulus fires exactly if the transactions that scan DMI, by the instruction that
stands when they come, have 41 bits and no reserved operation. -/
theorem driver_scans_legal (tdo rise : Nat → FourState 1) (ts : List JtagTxn) (hts : ∀ t ∈ ts, t.Drivable) :
    Runs.Always DmiAssertions.step (fun a e => ∀ k : DmiCheck, k.onStimulus = true → a.fails e k = false) {}
        (((JtagDriver.initialReset tdo).driveAll tdo ts).2.pins rise) ↔
      ∀ t ∈ dmiTxns JTAG_IDCODE ts, t.legalScan = true := by
  have hall := (JtagDriver.initialReset_scanned tdo rise).driveAll tdo rise ts hts
  rw [always_onStimulus_iff _ (JtagDriver.pins_posedge rise _)]
  refine hall.trans (and_iff_right ?_)
  intro x hx
  rw [List.eq_of_mem_replicate hx]
  rfl

/-- A DMI write and a scan of DTMCS pass; the second scan finds DMI no more, and its 32 bits are no matter. -/
theorem driver_scans_legal_write_dtmcs :
    let ts : List JtagTxn :=
      [JtagTxn.packDmi { phase := .irThenDr, dmiAddr := 0x10#7, dmiWdata := 1#32, dmiOp := DMI_WRITE },
        { phase := .irThenDr, irVal := JTAG_DTMCS, drDataIn := 0x10000#64, drLen := 32 }]
    Runs.Always DmiAssertions.step (fun a e => ∀ k : DmiCheck, k.onStimulus = true → a.fails e k = false) {}
      (((JtagDriver.initialReset fun _ => .x).driveAll (fun _ => .x) ts).2.pins fun _ => .x) := by
  intro ts
  have hts : ∀ t ∈ ts, t.Drivable := by
    intro t ht
    simp only [ts, List.mem_cons, List.not_mem_nil, or_false] at ht
    rcases ht with rfl | rfl <;> exact ⟨by decide, rfl, by decide⟩
  rw [driver_scans_legal _ _ ts hts]
  decide

end RiscvDbg

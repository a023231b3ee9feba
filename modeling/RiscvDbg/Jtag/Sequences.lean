import RiscvDbg.Jtag.RoundTrip
import RiscvDbg.Lib.Dialogues
import RiscvDbg.Sequences.DmiRead

/-!
# The sequences of the JTAG agent

Model of `sv/sequences`: the sequences that `serve` (`py_bridge.sv`) starts, as dialogues with the driver.
`start_item`, `finish_item` and `get_response` are one request and its response; the driver hands every item
back as its own response.

* `jtagDmiReadSeq`, `jtagDmiWriteSeq`, `jtagDtmcsSeq`, `jtagDmiScanSeq`, `jtagScanSeq`, `jtagTapResetSeq`,
  `jtagTmsWalkSeq` — the bodies.
* `Idle.run` — a sequence at the driver: the monitor reports its scans and nothing else.
* `DmiRequest` of a record, `Dtm.Explains` — what the DTM makes of the records.
* `jtagDmiReadSeq_explained` — between records a DTM accounts for, the read is the one of `DmiRead`.
-/

set_option autoImplicit false

namespace RiscvDbg

open Dialogue

/-- A sequence, as a dialogue with the driver. -/
abbrev JtagSequence := Dialogue JtagTxn JtagTxn

/-! ## The sequences -/

/-- `jtag_dmi_write_seq`. -/
def jtagDmiWriteSeq (addr : BitVec 7) (data : BitVec 32) : JtagSequence Unit := do
  let _ ← item (JtagTxn.packDmi { phase := .irThenDr, dmiAddr := addr, dmiWdata := data, dmiOp := DMI_WRITE })
  pure ()

/-- `jtag_dtmcs_seq`: `rdata`. -/
def jtagDtmcsSeq (wdata : BitVec 32) : JtagSequence (FourState 32) := do
  let txn ← item { phase := .irThenDr, irVal := JTAG_DTMCS, irLen := 5, drLen := 32, drDataIn := 0#32 ++ wdata }
  pure (txn.drDataOut.extract 0 32)

/-- `jtag_dmi_scan_seq`: `status`. -/
def jtagDmiScanSeq (op : BitVec 2) (addr : BitVec 7) (data : BitVec 32) : JtagSequence (FourState 2) := do
  let txn ← item { JtagTxn.packDmi { dmiAddr := addr, dmiWdata := data, dmiOp := op } with phase := .drOnly }
  pure txn.dmiStatus

/-- `jtag_scan_seq`: `rdata`. -/
def jtagScanSeq (ir : BitVec 5) (drLen : Nat) (wdata : BitVec 32) (pause : Bool) : JtagSequence (FourState 32) := do
  let txn ← item
    { phase := .irThenDr, irVal := ir, irLen := 5, drLen := drLen, drDataIn := 0#32 ++ wdata, pause := pause }
  pure (txn.drDataOut.extract 0 32)

/-- `jtag_tap_reset_seq`. -/
def jtagTapResetSeq : JtagSequence Unit := do
  let _ ← item { phase := .tapReset }
  pure ()

/-- `jtag_tms_walk_seq`. -/
def jtagTmsWalkSeq (count : Nat) (bits : BitVec 32) : JtagSequence Unit := do
  let _ ← item { phase := .tmsWalk, drLen := count, drDataIn := 0#32 ++ bits }
  pure ()

namespace JtagDmiReadSeq

/-- The item of `issue_read`. -/
def readItem (addr : BitVec 7) : JtagTxn :=
  JtagTxn.packDmi { phase := .irThenDr, dmiAddr := addr, dmiWdata := 0, dmiOp := DMI_READ }

/-- The item of a poll, and of a drain. -/
def nopItem : JtagTxn :=
  JtagTxn.packDmi { phase := .irThenDr, dmiAddr := 0, dmiWdata := 0, dmiOp := DMI_NOP }

/-- The item that clears the sticky status. -/
def dmiresetItem : JtagTxn :=
  { phase := .irThenDr, irVal := JTAG_DTMCS, irLen := 5, drLen := 32, drDataIn := 0#32 ++ (1#32 <<< 16) }

/-- `issue_read`: the item and `req_busy`. -/
def issueReadItem (addr : BitVec 7) : JtagSequence (JtagTxn × Bool) := do
  let txn ← item (readItem addr)
  pure (txn, txn.dmiStatus.caseEq DMI_STAT_BUSY)

/-- Up to `n` polls: the last item and `captured`. -/
def pollItems : Nat → JtagTxn → JtagSequence (JtagTxn × Bool)
  | 0, txn => pure (txn, false)
  | n + 1, _ => do
    let txn ← item nopItem
    if txn.dmiStatus.ne DMI_STAT_BUSY then pure (txn, true) else pollItems n txn

/-- The scans after a `dmireset`. -/
def drainItems : Nat → JtagSequence Unit
  | 0 => pure ()
  | n + 1 => do
    let _ ← item nopItem
    drainItems n

/-- The attempts, with the number of resets that are left: the last item, and whether a `DMI_RD` error was
reported. -/
def attemptItems (addr : BitVec 7) : Nat → JtagTxn × Bool → JtagSequence (JtagTxn × Bool)
  | 0, i => do
    let p ← pollItems (if i.2 then 0 else MaxBusyPolls) i.1
    pure (p.1, !p.2)
  | resets + 1, i => do
    let p ← pollItems (if i.2 then 0 else MaxBusyPolls) i.1
    if p.2 then pure (p.1, false)
    else do
      let _ ← item dmiresetItem
      drainItems BusyDrainScans
      let i ← issueReadItem addr
      attemptItems addr resets i

end JtagDmiReadSeq

open JtagDmiReadSeq

/-- `jtag_dmi_read_seq`: the last item, whose `dmi_rdata` is `rsp_data`, and whether an error was reported. -/
def jtagDmiReadSeq (addr : BitVec 7) : JtagSequence (JtagTxn × Bool) := do
  let i ← issueReadItem addr
  attemptItems addr MaxBusyResets i

/-! ## At the driver -/

namespace JtagTxn

/-- `r` is `q` as it comes back: the response half is filled in, from the bits captured if there are any. -/
structure Completes (r q : JtagTxn) : Prop where
  request : r.request = q.request
  unpacked : q.scansDr = true → r.unpackDmi = r

/-- The requests of a record to the DM. -/
def dmiRequest? (r : JtagTxn) : Option DmiRequest :=
  if r.irVal = JTAG_DMI ∧ r.dmiOp ≠ DMI_NOP then some ⟨r.dmiOp, r.dmiAddr, r.dmiWdata⟩ else none

end JtagTxn

/-- The requests to the DM that the records show. -/
def dmiRequests (recs : List JtagTxn) : List DmiRequest := recs.filterMap JtagTxn.dmiRequest?

/-- The instruction that stands after a transcript. -/
def standing (ir : BitVec 5) (tr : List (JtagTxn × JtagTxn)) : BitVec 5 :=
  tr.foldl (fun ir e => e.2.latched ir) ir

/-- The records of a transcript. -/
def reported (ir : BitVec 5) (tr : List (JtagTxn × JtagTxn)) : List JtagTxn := expected ir (tr.map Prod.snd)

namespace JtagDriver

variable (tdo : Nat → FourState 1) {d : JtagDriver} {ir : BitVec 5} {recs : List JtagTxn}

/-- The driver as the sequencer sees it. -/
def device (d : JtagDriver) (txn : JtagTxn) : JtagTxn × JtagDriver := d.driveTxn tdo txn

theorem device_completes (d : JtagDriver) (q : JtagTxn) : (d.device tdo q).1.Completes q := by
  refine ⟨request_driveTxn tdo d q, fun hq => ?_⟩
  unfold device driveTxn
  cases hphase : q.phase with
  | drOnly => rfl
  | irThenDr => rfl
  | _ => simp [JtagTxn.scansDr, hphase] at hq

end JtagDriver

theorem reported_concat (ir : BitVec 5) (tr : List (JtagTxn × JtagTxn)) (e : JtagTxn × JtagTxn) :
    reported ir (tr ++ [e]) = reported ir tr ++ e.2.scanRecords (standing ir (tr ++ [e])) := by
  induction tr generalizing ir with
  | nil => simp [reported, expected, standing]
  | cons e' tr ih =>
    have hrest := ih (e'.2.latched ir)
    simp only [reported, List.cons_append, List.map_cons, expected, List.append_assoc] at hrest ⊢
    rw [hrest]
    rfl

/-- **A sequence at the driver**, whatever comes back on TDO: the monitor reports its scans of DMI and DTMCS,
in order, and nothing else. -/
theorem JtagDriver.Idle.run (tdo : Nat → FourState 1) {d : JtagDriver} {ir : BitVec 5} {recs : List JtagTxn}
    {α : Type} {p : JtagSequence α} (h : Idle d ir recs) (hp : p.Asks JtagTxn.Drivable) :
    let tr := p.transcript (device tdo) d
    Idle (p.run (device tdo) d).2 (standing ir tr) (recs ++ reported ir tr) ∧
      ∀ e ∈ tr, e.2.Completes e.1 := by
  refine run_transcript (I := fun tr d => Idle d (standing ir tr) (recs ++ reported ir tr) ∧
    ∀ e ∈ tr, e.2.Completes e.1) ?_ [] d hp ⟨?_, by simp⟩
  · rintro tr d q hq ⟨hidle, hcomplete⟩
    have hnext := hidle.driveTxn tdo hq
    have hstands : standing ir (tr ++ [(q, (d.device tdo q).1)]) = q.latched (standing ir tr) := by
      rw [standing, List.foldl_concat]
      exact latched_of_request (request_driveTxn tdo d q) _
    refine ⟨?_, ?_⟩
    · rw [reported_concat, hstands, ← List.append_assoc]
      exact hnext
    · intro e he
      rcases List.mem_append.mp he with he | he
      · exact hcomplete e he
      · rw [List.mem_singleton] at he
        rw [he]
        exact device_completes tdo d q
  · simpa [standing, reported, expected] using h

/-! ## Records -/

theorem reported_append (ir : BitVec 5) (tr tr' : List (JtagTxn × JtagTxn)) :
    reported ir (tr ++ tr') = reported ir tr ++ reported (standing ir tr) tr' := by
  induction tr generalizing ir with
  | nil => rfl
  | cons e tr ih =>
    have hrest := ih (e.2.latched ir)
    simp only [reported, List.cons_append, List.map_cons, expected, List.append_assoc] at hrest ⊢
    rw [hrest]
    rfl

theorem standing_append (ir : BitVec 5) (tr tr' : List (JtagTxn × JtagTxn)) :
    standing ir (tr ++ tr') = standing (standing ir tr) tr' := List.foldl_append

@[simp] theorem dmiRequests_append (rs rs' : List JtagTxn) :
    dmiRequests (rs ++ rs') = dmiRequests rs ++ dmiRequests rs' := List.filterMap_append

/-- Every response of the transcript completes its request. -/
def Completed (tr : List (JtagTxn × JtagTxn)) : Prop := ∀ e ∈ tr, e.2.Completes e.1

@[simp] theorem completed_cons {q r : JtagTxn} {tr : List (JtagTxn × JtagTxn)} :
    Completed ((q, r) :: tr) ↔ r.Completes q ∧ Completed tr := List.forall_mem_cons

@[simp] theorem completed_append {tr tr' : List (JtagTxn × JtagTxn)} :
    Completed (tr ++ tr') ↔ Completed tr ∧ Completed tr' := List.forall_mem_append

/-- A request to the DM in 41 bits. -/
structure JtagTxn.Packs (q : JtagTxn) (o : DmiRequest) : Prop where
  drLen : q.drLen = 41
  drDataIn : q.drDataIn = (0#23 ++ o.addr ++ o.data ++ o.op : BitVec 64)
  scansDr : q.scansDr = true

section
variable {q r : JtagTxn} {o : DmiRequest}

/-- The record of a request to the DM: the request, and the response of its item. -/
theorem JtagTxn.Packs.scanRecord (hq : q.Packs o) (hr : r.Completes q) :
    let t := r.scanRecord JTAG_DMI
    t.irVal = JTAG_DMI ∧ (⟨t.dmiOp, t.dmiAddr, t.dmiWdata⟩ : DmiRequest) = o ∧ t.dmiStatus = r.dmiStatus ∧
      t.dmiRdata = r.dmiRdata := by
  have hlen : r.drLen = 41 := (congrArg JtagTxn.drLen hr.request :).trans hq.drLen
  have hin : r.drDataIn = _ := (congrArg JtagTxn.drDataIn hr.request :).trans hq.drDataIn
  have hbits : ShiftRegister.lowBits r.drLen r.drDataIn = (0#23 ++ o.addr ++ o.data ++ o.op : BitVec 64) := by
    rw [hlen, hin]
    apply BitVec.eq_of_getLsbD_eq
    intro i hi
    simp only [ShiftRegister.getLsbD_lowBits, BitVec.getLsbD_append]
    grind
  have hunpacked := hr.unpacked hq.scansDr
  have hstatus : r.drDataOut.extract 0 2 = r.dmiStatus := congrArg JtagTxn.dmiStatus hunpacked
  have hrdata : r.drDataOut.extract 2 32 = r.dmiRdata := congrArg JtagTxn.dmiRdata hunpacked
  intro t
  have ht : t =
      { irVal := JTAG_DMI, drLen := r.drLen, drDataIn := ShiftRegister.lowBits r.drLen r.drDataIn
        drDataOut := r.drDataOut, phase := .drOnly
        dmiOp := (ShiftRegister.lowBits r.drLen r.drDataIn).extractLsb' 0 2
        dmiWdata := (ShiftRegister.lowBits r.drLen r.drDataIn).extractLsb' 2 32
        dmiAddr := (ShiftRegister.lowBits r.drLen r.drDataIn).extractLsb' 34 7
        dmiStatus := r.drDataOut.extract 0 2, dmiRdata := r.drDataOut.extract 2 32 } := by
    change r.scanRecord JTAG_DMI = _
    rw [JtagTxn.scanRecord, if_pos rfl]
  rw [ht, hbits, hstatus, hrdata]
  refine ⟨rfl, ?_, rfl, rfl⟩
  rw [DmiRequest.mk.injEq]
  refine ⟨?_, ?_, ?_⟩
  all_goals
    apply BitVec.eq_of_getLsbD_eq
    intro i hi
    simp only [BitVec.getLsbD_extractLsb', BitVec.getLsbD_append]
    grind

theorem JtagTxn.Packs.dmiRequest? (hq : q.Packs o) (hr : r.Completes q) :
    (r.scanRecord JTAG_DMI).dmiRequest? = if o.op ≠ DMI_NOP then some o else none := by
  obtain ⟨hir, hfields, -, -⟩ := hq.scanRecord hr
  have hop : (r.scanRecord JTAG_DMI).dmiOp = o.op := congrArg DmiRequest.op hfields
  rw [JtagTxn.dmiRequest?, hfields, hop]
  simp only [hir, true_and]

/-- A scan of DMI or DTMCS that selects its own instruction has one record. -/
theorem scanRecords_of_select (ir : BitVec 5) (hq : q.phase = .irThenDr)
    (hir : q.irVal = JTAG_DMI ∨ q.irVal = JTAG_DTMCS) (hr : r.Completes q) :
    r.scanRecords (r.latched ir) = [r.scanRecord q.irVal] ∧ r.latched ir = q.irVal := by
  have hphase : r.phase = .irThenDr := (congrArg JtagTxn.phase hr.request :).trans hq
  have hval : r.irVal = q.irVal := (congrArg JtagTxn.irVal hr.request :)
  have hlatched : r.latched ir = q.irVal := by rw [JtagTxn.latched, hphase, hval]
  refine ⟨?_, hlatched⟩
  have hscans : r.scansDr = true := by rw [JtagTxn.scansDr, hphase]; rfl
  rw [hlatched, JtagTxn.scanRecords, if_pos ⟨hscans, hir⟩]

theorem reported_cons_of_select {ir : BitVec 5} {tr : List (JtagTxn × JtagTxn)} (hq : q.phase = .irThenDr)
    (hir : q.irVal = JTAG_DMI ∨ q.irVal = JTAG_DTMCS) (hr : r.Completes q) :
    reported ir ((q, r) :: tr) = r.scanRecord q.irVal :: reported q.irVal tr := by
  obtain ⟨hrecords, hlatched⟩ := scanRecords_of_select ir hq hir hr
  have hcons : reported ir ((q, r) :: tr) = r.scanRecords (r.latched ir) ++ reported (r.latched ir) tr := rfl
  rw [hcons, hrecords, hlatched, List.singleton_append]

theorem standing_cons_of_select {ir : BitVec 5} {tr : List (JtagTxn × JtagTxn)} (hq : q.phase = .irThenDr)
    (hir : q.irVal = JTAG_DMI ∨ q.irVal = JTAG_DTMCS) (hr : r.Completes q) :
    standing ir ((q, r) :: tr) = standing q.irVal tr := by
  have hcons : standing ir ((q, r) :: tr) = standing (r.latched ir) tr := rfl
  rw [hcons, (scanRecords_of_select ir hq hir hr).2]

end

/-! ## A DTM behind the pins -/

/-- The item brings what the scan captured. -/
structure Brings (r : JtagTxn) (c : Capture) : Prop where
  dmiStatus : r.dmiStatus = .ofBits c.dmiStatus
  dmiRdata : r.dmiRdata = .ofBits c.dmiRdata

namespace Dtm

variable (dm : Dm)

/-- The DTM after the scan of a record. -/
def afterRecord (d : Dtm) (r : JtagTxn) : Dtm :=
  if r.irVal = JTAG_DMI then (d.scan dm ⟨r.dmiOp, r.dmiAddr, r.dmiWdata⟩).1
  else if r.drDataIn.getLsbD 16 then d.dmireset dm
  else { d.progress dm with scans := d.scans + 1 }

/-- The DTM, in the state `d`, accounts for what the records captured, and is left in the state `d'`. -/
def Explains (d : Dtm) : List JtagTxn → Dtm → Prop
  | [], d' => d' = d
  | r :: rs, d' =>
    (r.irVal = JTAG_DMI → Brings r (d.scan dm ⟨r.dmiOp, r.dmiAddr, r.dmiWdata⟩).2) ∧
      (d.afterRecord dm r).Explains rs d'

variable {dm}

theorem explains_append {d d' : Dtm} {rs rs' : List JtagTxn} :
    d.Explains dm (rs ++ rs') d' ↔ ∃ d₁, d.Explains dm rs d₁ ∧ d₁.Explains dm rs' d' := by
  induction rs generalizing d with
  | nil => simp [Explains]
  | cons r rs ih => simp only [List.cons_append, Explains, ih, and_assoc, exists_and_left]

end Dtm

/-! ## The items of a read -/

namespace JtagDmiReadSeq

theorem readItem_packs (addr : BitVec 7) : (readItem addr).Packs (readOp addr) := ⟨rfl, rfl, rfl⟩

theorem nopItem_packs : nopItem.Packs nop := ⟨rfl, rfl, rfl⟩

section
variable {dm : Dm} {d d' : Dtm} {ir : BitVec 5} {r : JtagTxn} {tr : List (JtagTxn × JtagTxn)}

/-- A request to the DM, as the DTM sees it. -/
theorem explains_packed {q : JtagTxn} {o : DmiRequest} (hq : q.Packs o) (hphase : q.phase = .irThenDr)
    (hir : q.irVal = JTAG_DMI) (hr : r.Completes q) (h : d.Explains dm (reported ir ((q, r) :: tr)) d') :
    Brings r (d.scan dm o).2 ∧ (d.scan dm o).1.Explains dm (reported JTAG_DMI tr) d' := by
  rw [reported_cons_of_select hphase (.inl hir) hr, hir] at h
  obtain ⟨hdmi, hfields, hstatus, hrdata⟩ := hq.scanRecord hr
  obtain ⟨hbrings, hrest⟩ := h
  have hscan := hbrings hdmi
  rw [Dtm.afterRecord, if_pos hdmi] at hrest
  rw [hfields] at hscan hrest
  exact ⟨⟨hstatus ▸ hscan.dmiStatus, hrdata ▸ hscan.dmiRdata⟩, hrest⟩

theorem explains_nop (hr : r.Completes nopItem) (h : d.Explains dm (reported ir ((nopItem, r) :: tr)) d') :
    Brings r (d.scan dm nop).2 ∧ (d.scan dm nop).1.Explains dm (reported JTAG_DMI tr) d' :=
  explains_packed nopItem_packs rfl rfl hr h

/-- The scan of DTMCS clears the sticky status. -/
theorem explains_dmireset (hr : r.Completes dmiresetItem)
    (h : d.Explains dm (reported ir ((dmiresetItem, r) :: tr)) d') :
    (d.dmireset dm).Explains dm (reported JTAG_DTMCS tr) d' := by
  rw [reported_cons_of_select rfl (.inr rfl) hr] at h
  have hrecord : r.scanRecord dmiresetItem.irVal =
      { irVal := JTAG_DTMCS, drLen := r.drLen, drDataIn := ShiftRegister.lowBits r.drLen r.drDataIn,
        drDataOut := r.drDataOut, phase := .drOnly } := by
    rw [JtagTxn.scanRecord, if_neg (by decide)]
    rfl
  have hbit : (ShiftRegister.lowBits r.drLen r.drDataIn).getLsbD 16 = true := by
    have hlen : r.drLen = 32 := (congrArg JtagTxn.drLen hr.request :)
    have hin : r.drDataIn = dmiresetItem.drDataIn := (congrArg JtagTxn.drDataIn hr.request :)
    rw [hlen, hin]
    decide
  rw [hrecord] at h
  have hrest := h.2
  rw [Dtm.afterRecord, if_neg (show JTAG_DTMCS ≠ JTAG_DMI by decide), if_pos hbit] at hrest
  exact hrest

/-! ### Over a DTM -/

theorem issueRead_explained {addr : BitVec 7} {res : JtagTxn × Bool} (h : Says (issueReadItem addr) tr res)
    (htr : Completed tr) (hd : d.Explains dm (reported ir tr) d') :
    d' = (issueRead dm addr d).1 ∧ Brings res.1 (issueRead dm addr d).2.1 ∧ res.2 = (issueRead dm addr d).2.2 := by
  obtain ⟨r, tr', rfl, hrest⟩ := says_item.mp h
  obtain ⟨rfl, rfl⟩ := says_pure.mp hrest
  obtain ⟨hbrings, hend⟩ := explains_packed (readItem_packs addr) rfl rfl (completed_cons.mp htr).1 hd
  refine ⟨hend, hbrings, ?_⟩
  rw [hbrings.dmiStatus]
  simp [FourState.caseEq, FourState.known, FourState.ofBits, issueRead]

theorem polls_explained : ∀ (n : Nat) {txn : JtagTxn} {cap : Capture} {d : Dtm} {ir : BitVec 5}
    {tr : List (JtagTxn × JtagTxn)} {res : JtagTxn × Bool}, Says (pollItems n txn) tr res → Completed tr →
    Brings txn cap → d.Explains dm (reported ir tr) d' →
    d' = (polls dm n d cap).1 ∧ Brings res.1 (polls dm n d cap).2.1 ∧ res.2 = (polls dm n d cap).2.2 := by
  intro n
  induction n with
  | zero =>
    intro txn cap d ir tr res h _ htxn hd
    obtain ⟨rfl, rfl⟩ := says_pure.mp h
    exact ⟨hd, htxn, rfl⟩
  | succ n ih =>
    intro txn cap d ir tr res h htr htxn hd
    obtain ⟨r, tr', rfl, hrest⟩ := says_item.mp h
    obtain ⟨hr, htr'⟩ := completed_cons.mp htr
    obtain ⟨hbrings, hnext⟩ := explains_nop hr hd
    have hne : r.dmiStatus.ne DMI_STAT_BUSY = true ↔ (d.scan dm nop).2.dmiStatus ≠ DMI_STAT_BUSY := by
      rw [hbrings.dmiStatus, FourState.ne_ofBits, bne_iff_ne]
    simp only [polls]
    split_ifs at hrest with hcaptured
    · obtain ⟨rfl, rfl⟩ := says_pure.mp hrest
      rw [if_pos (hne.mp hcaptured)]
      exact ⟨hnext, hbrings, rfl⟩
    · rw [if_neg (fun h => hcaptured (hne.mpr h))]
      exact ih hrest htr' hbrings hnext

theorem drains_explained : ∀ (n : Nat) {d : Dtm} {ir : BitVec 5} {tr : List (JtagTxn × JtagTxn)} {res : Unit},
    Says (drainItems n) tr res → Completed tr → d.Explains dm (reported ir tr) d' → d' = drains dm n d := by
  intro n
  induction n with
  | zero =>
    intro d ir tr res h _ hd
    obtain ⟨rfl, -⟩ := says_pure.mp h
    exact hd
  | succ n ih =>
    intro d ir tr res h htr hd
    obtain ⟨r, tr', rfl, hrest⟩ := says_item.mp h
    obtain ⟨hr, htr'⟩ := completed_cons.mp htr
    exact ih hrest htr' (explains_nop hr hd).2

theorem attempts_explained {addr : BitVec 7} : ∀ (resets : Nat) {i : JtagTxn × Bool} {cap : Capture} {d : Dtm}
    {ir : BitVec 5} {tr : List (JtagTxn × JtagTxn)} {res : JtagTxn × Bool}, Says (attemptItems addr resets i) tr res →
    Completed tr → Brings i.1 cap → d.Explains dm (reported ir tr) d' →
    d' = (attempts dm addr resets d cap i.2).dtm ∧ Brings res.1 (attempts dm addr resets d cap i.2).txn ∧
      res.2 = (attempts dm addr resets d cap i.2).error := by
  intro resets
  induction resets with
  | zero =>
    intro i cap d ir tr res h htr hi hd
    obtain ⟨tr₁, tr₂, p, rfl, hpolls, hrest⟩ := says_bind.mp h
    obtain ⟨rfl, rfl⟩ := says_pure.mp hrest
    rw [List.append_nil] at htr hd
    obtain ⟨hdtm, htxn, hcaptured⟩ := polls_explained _ hpolls htr hi hd
    cases hp : (polled dm d cap i.2).2.2 with
    | true =>
      rw [attempts_of_captured hp, hcaptured, ← polled, hp]
      exact ⟨hdtm, htxn, rfl⟩
    | false =>
      rw [attempts_of_busy hp, hcaptured, ← polled, hp]
      exact ⟨hdtm, htxn, rfl⟩
  | succ resets ih =>
    intro i cap d ir tr res h htr hi hd
    obtain ⟨tr₁, tr₂, p, rfl, hpolls, hrest⟩ := says_bind.mp h
    rw [reported_append] at hd
    obtain ⟨htr₁, htr₂⟩ := completed_append.mp htr
    obtain ⟨d₁, hd₁, hd₂⟩ := Dtm.explains_append.mp hd
    obtain ⟨hdtm, htxn, hcaptured⟩ := polls_explained _ hpolls htr₁ hi hd₁
    rw [← polled] at hdtm htxn hcaptured
    split_ifs at hrest with hp
    · obtain ⟨rfl, rfl⟩ := says_pure.mp hrest
      rw [attempts_of_captured (hcaptured.symm.trans hp)]
      exact ⟨hd₂.trans hdtm, htxn, rfl⟩
    · obtain ⟨r, tr₃, rfl, hagain⟩ := says_item.mp hrest
      obtain ⟨hr, htr₃⟩ := completed_cons.mp htr₂
      have hd₃ := explains_dmireset hr hd₂
      obtain ⟨tr₄, tr₅, _, rfl, hdrains, hissues⟩ := says_bind.mp hagain
      obtain ⟨tr₆, tr₇, j, rfl, hissue, hattempts⟩ := says_bind.mp hissues
      obtain ⟨htr₄, htr₅⟩ := completed_append.mp htr₃
      obtain ⟨htr₆, htr₇⟩ := completed_append.mp htr₅
      rw [reported_append, reported_append] at hd₃
      obtain ⟨d₄, hd₄, hd₅⟩ := Dtm.explains_append.mp hd₃
      obtain ⟨d₆, hd₆, hd₇⟩ := Dtm.explains_append.mp hd₅
      have hdrained := drains_explained _ hdrains htr₄ hd₄
      obtain ⟨hissued, hitem, hbusy⟩ := issueRead_explained hissue htr₆ hd₆
      have hp' : (polled dm d cap i.2).2.2 = false := hcaptured.symm.trans (Bool.not_eq_true _ ▸ hp)
      have hrecovered : recovered dm (polled dm d cap i.2).1 = d₄ := by
        rw [hdrained, hdtm, recovered]
      rw [attempts_succ_of_busy hp' rfl, hrecovered, ← hbusy, ← hissued]
      exact ih hattempts htr₇ hitem hd₇

end

/-! ### Requests to the DM -/

section
variable {ir : BitVec 5} {r : JtagTxn} {tr : List (JtagTxn × JtagTxn)}

theorem dmiRequests_packed {q : JtagTxn} {o : DmiRequest} (hq : q.Packs o) (hphase : q.phase = .irThenDr)
    (hir : q.irVal = JTAG_DMI) (hr : r.Completes q) :
    dmiRequests (reported ir ((q, r) :: tr)) =
      (if o.op ≠ DMI_NOP then [o] else []) ++ dmiRequests (reported JTAG_DMI tr) := by
  rw [reported_cons_of_select hphase (.inl hir) hr, hir, dmiRequests, List.filterMap_cons, hq.dmiRequest? hr]
  split_ifs <;> rfl

theorem dmiRequests_nop (hr : r.Completes nopItem) :
    dmiRequests (reported ir ((nopItem, r) :: tr)) = dmiRequests (reported JTAG_DMI tr) :=
  dmiRequests_packed nopItem_packs rfl rfl hr

theorem dmiRequests_read {addr : BitVec 7} (hr : r.Completes (readItem addr)) :
    dmiRequests (reported ir ((readItem addr, r) :: tr)) = readOp addr :: dmiRequests (reported JTAG_DMI tr) :=
  dmiRequests_packed (readItem_packs addr) rfl rfl hr

/-- A scan of DTMCS makes no request to the DM. -/
theorem dmiRequests_dtmcs {q : JtagTxn} (hphase : q.phase = .irThenDr) (hir : q.irVal = JTAG_DTMCS)
    (hr : r.Completes q) :
    dmiRequests (reported ir ((q, r) :: tr)) = dmiRequests (reported JTAG_DTMCS tr) := by
  have hrecord : (r.scanRecord JTAG_DTMCS).dmiRequest? = none := by
    rw [JtagTxn.scanRecord, if_neg (by decide)]
    exact if_neg fun h => absurd h.1 (show JTAG_DTMCS ≠ JTAG_DMI by decide)
  rw [reported_cons_of_select hphase (.inr hir) hr, hir, dmiRequests, List.filterMap_cons, hrecord]
  rfl

theorem polls_requests : ∀ (n : Nat) {txn : JtagTxn} {ir : BitVec 5} {tr : List (JtagTxn × JtagTxn)}
    {res : JtagTxn × Bool}, Says (pollItems n txn) tr res → Completed tr → dmiRequests (reported ir tr) = [] := by
  intro n
  induction n with
  | zero =>
    intro txn ir tr res h _
    obtain ⟨rfl, -⟩ := says_pure.mp h
    rfl
  | succ n ih =>
    intro txn ir tr res h htr
    obtain ⟨r, tr', rfl, hrest⟩ := says_item.mp h
    obtain ⟨hr, htr'⟩ := completed_cons.mp htr
    rw [dmiRequests_nop hr]
    split_ifs at hrest with hcaptured
    · obtain ⟨rfl, -⟩ := says_pure.mp hrest
      rfl
    · exact ih hrest htr'

theorem drains_requests : ∀ (n : Nat) {ir : BitVec 5} {tr : List (JtagTxn × JtagTxn)} {res : Unit},
    Says (drainItems n) tr res → Completed tr → dmiRequests (reported ir tr) = [] := by
  intro n
  induction n with
  | zero =>
    intro ir tr res h _
    obtain ⟨rfl, -⟩ := says_pure.mp h
    rfl
  | succ n ih =>
    intro ir tr res h htr
    obtain ⟨r, tr', rfl, hrest⟩ := says_item.mp h
    obtain ⟨hr, htr'⟩ := completed_cons.mp htr
    rw [dmiRequests_nop hr]
    exact ih hrest htr'

theorem issueRead_requests {addr : BitVec 7} {res : JtagTxn × Bool} (h : Says (issueReadItem addr) tr res)
    (htr : Completed tr) : dmiRequests (reported ir tr) = [readOp addr] := by
  obtain ⟨r, tr', rfl, hrest⟩ := says_item.mp h
  obtain ⟨rfl, -⟩ := says_pure.mp hrest
  rw [dmiRequests_read (completed_cons.mp htr).1]
  rfl

/-- An attempt after the first makes one more request. -/
theorem attempts_requests {addr : BitVec 7} : ∀ (resets : Nat) (ir : BitVec 5) {i : JtagTxn × Bool}
    {tr : List (JtagTxn × JtagTxn)} {res : JtagTxn × Bool}, Says (attemptItems addr resets i) tr res → Completed tr →
    ∃ k ≤ resets, dmiRequests (reported ir tr) = List.replicate k (readOp addr) := by
  intro resets
  induction resets with
  | zero =>
    intro ir i tr res h htr
    obtain ⟨tr₁, tr₂, p, rfl, hpolls, hrest⟩ := says_bind.mp h
    obtain ⟨rfl, -⟩ := says_pure.mp hrest
    rw [List.append_nil] at htr ⊢
    exact ⟨0, Nat.le_refl 0, polls_requests _ hpolls htr⟩
  | succ resets ih =>
    intro ir i tr res h htr
    obtain ⟨tr₁, tr₂, p, rfl, hpolls, hrest⟩ := says_bind.mp h
    obtain ⟨htr₁, htr₂⟩ := completed_append.mp htr
    rw [reported_append, dmiRequests_append, polls_requests _ hpolls htr₁, List.nil_append]
    split_ifs at hrest with hp
    · obtain ⟨rfl, -⟩ := says_pure.mp hrest
      exact ⟨0, Nat.zero_le _, rfl⟩
    · obtain ⟨r, tr₃, rfl, hagain⟩ := says_item.mp hrest
      obtain ⟨tr₄, tr₅, _, rfl, hdrains, hissues⟩ := says_bind.mp hagain
      obtain ⟨tr₆, tr₇, j, rfl, hissue, hattempts⟩ := says_bind.mp hissues
      obtain ⟨hr, htr₃⟩ := completed_cons.mp htr₂
      obtain ⟨htr₄, htr₅⟩ := completed_append.mp htr₃
      obtain ⟨htr₆, htr₇⟩ := completed_append.mp htr₅
      rw [dmiRequests_dtmcs rfl rfl hr, reported_append, dmiRequests_append, reported_append, dmiRequests_append,
        drains_requests _ hdrains htr₄, issueRead_requests hissue htr₆]
      obtain ⟨k, hk, hrequests⟩ := ih _ hattempts htr₇
      exact ⟨k + 1, Nat.succ_le_succ hk, by rw [hrequests]; rfl⟩

/-! ### Giving up -/

/-- Polls that capture nothing end with an item that is not known to differ from busy. -/
theorem polls_gaveUp : ∀ (n : Nat) {txn : JtagTxn} {tr : List (JtagTxn × JtagTxn)} {res : JtagTxn × Bool},
    (n = 0 → txn.dmiStatus.ne DMI_STAT_BUSY = false) → Says (pollItems n txn) tr res → res.2 = false →
    res.1.dmiStatus.ne DMI_STAT_BUSY = false := by
  intro n
  induction n with
  | zero =>
    intro txn tr res htxn h _
    obtain ⟨-, rfl⟩ := says_pure.mp h
    exact htxn rfl
  | succ n ih =>
    intro txn tr res _ h
    obtain ⟨r, tr', rfl, hrest⟩ := says_item.mp h
    split_ifs at hrest with hcaptured
    · obtain ⟨-, rfl⟩ := says_pure.mp hrest
      intro hsome
      cases hsome
    · exact ih (fun _ => Bool.not_eq_true _ ▸ hcaptured) hrest

theorem issueRead_gaveUp {addr : BitVec 7} {res : JtagTxn × Bool} (h : Says (issueReadItem addr) tr res)
    (hbusy : res.2 = true) : res.1.dmiStatus.ne DMI_STAT_BUSY = false := by
  obtain ⟨r, tr', rfl, hrest⟩ := says_item.mp h
  obtain ⟨-, rfl⟩ := says_pure.mp hrest
  obtain ⟨hknown, hvalue⟩ := Bool.and_eq_true_iff.mp hbusy
  have hstatus : r.dmiStatus = .ofBits DMI_STAT_BUSY := FourState.ext (eq_of_beq hvalue) (eq_of_beq hknown)
  rw [hstatus]
  decide

/-- A read that reports an error ends with such an item. -/
theorem attempts_gaveUp {addr : BitVec 7} : ∀ (resets : Nat) {i : JtagTxn × Bool} {tr : List (JtagTxn × JtagTxn)}
    {res : JtagTxn × Bool}, (i.2 = true → i.1.dmiStatus.ne DMI_STAT_BUSY = false) →
    Says (attemptItems addr resets i) tr res → res.2 = true → res.1.dmiStatus.ne DMI_STAT_BUSY = false := by
  intro resets
  have hbound : ∀ i : JtagTxn × Bool, (if i.2 then 0 else MaxBusyPolls) = 0 → i.2 = true := by
    intro i hzero
    by_contra hidle
    rw [if_neg hidle] at hzero
    cases hzero
  induction resets with
  | zero =>
    intro i tr res hi h herror
    obtain ⟨tr₁, tr₂, p, rfl, hpolls, hrest⟩ := says_bind.mp h
    obtain ⟨-, rfl⟩ := says_pure.mp hrest
    have hnone : p.2 = false := by simpa using herror
    have hstatus := polls_gaveUp _ (fun hzero => hi (hbound i hzero)) hpolls hnone
    exact hstatus
  | succ resets ih =>
    intro i tr res hi h
    obtain ⟨tr₁, tr₂, p, rfl, hpolls, hrest⟩ := says_bind.mp h
    split_ifs at hrest with hcaptured
    · obtain ⟨-, rfl⟩ := says_pure.mp hrest
      intro herror
      cases herror
    · obtain ⟨r, tr₃, rfl, hagain⟩ := says_item.mp hrest
      obtain ⟨tr₄, tr₅, _, rfl, hdrains, hissues⟩ := says_bind.mp hagain
      obtain ⟨tr₆, tr₇, j, rfl, hissue, hattempts⟩ := says_bind.mp hissues
      exact ih (issueRead_gaveUp hissue) hattempts

/-! ### The last item -/

/-- The item of a request or a poll comes last. -/
def LastItem (addr : BitVec 7) (tr : List (JtagTxn × JtagTxn)) (txn : JtagTxn) : Prop :=
  ∃ tr' q, (q = nopItem ∨ q = readItem addr) ∧ tr = tr' ++ [(q, txn)]

variable {addr : BitVec 7}

theorem LastItem.append {txn : JtagTxn} (h : LastItem addr tr txn) (tr' : List (JtagTxn × JtagTxn)) :
    LastItem addr (tr' ++ tr) txn := by
  obtain ⟨tr₁, q, hq, rfl⟩ := h
  exact ⟨tr' ++ tr₁, q, hq, (List.append_assoc _ _ _).symm⟩

theorem polls_last : ∀ (n : Nat) {txn : JtagTxn} {tr : List (JtagTxn × JtagTxn)} {res : JtagTxn × Bool},
    Says (pollItems n txn) tr res → (tr = [] ∧ res.1 = txn) ∨ LastItem addr tr res.1 := by
  intro n
  induction n with
  | zero =>
    intro txn tr res h
    obtain ⟨rfl, rfl⟩ := says_pure.mp h
    exact .inl ⟨rfl, rfl⟩
  | succ n ih =>
    intro txn tr res h
    obtain ⟨r, tr', rfl, hrest⟩ := says_item.mp h
    refine .inr ?_
    split_ifs at hrest with hcaptured
    · obtain ⟨rfl, rfl⟩ := says_pure.mp hrest
      exact ⟨[], nopItem, .inl rfl, rfl⟩
    · obtain ⟨rfl, hres⟩ | hlast := ih hrest
      · exact ⟨[], nopItem, .inl rfl, by rw [hres]; rfl⟩
      · exact hlast.append [(nopItem, r)]

theorem issueRead_last {res : JtagTxn × Bool} (h : Says (issueReadItem addr) tr res) : LastItem addr tr res.1 := by
  obtain ⟨r, tr', rfl, hrest⟩ := says_item.mp h
  obtain ⟨rfl, rfl⟩ := says_pure.mp hrest
  exact ⟨[], readItem addr, .inr rfl, rfl⟩

/-- With the request before it, an attempt ends with the last item. -/
theorem attempts_last : ∀ (resets : Nat) {i : JtagTxn × Bool} {tr tr₀ : List (JtagTxn × JtagTxn)}
    {res : JtagTxn × Bool}, LastItem addr tr₀ i.1 → Says (attemptItems addr resets i) tr res →
    LastItem addr (tr₀ ++ tr) res.1 := by
  intro resets
  induction resets with
  | zero =>
    intro i tr tr₀ res hi h
    obtain ⟨tr₁, tr₂, p, rfl, hpolls, hrest⟩ := says_bind.mp h
    obtain ⟨rfl, rfl⟩ := says_pure.mp hrest
    rw [List.append_nil]
    obtain ⟨rfl, hp⟩ | hlast := polls_last _ hpolls
    · rw [List.append_nil, hp]
      exact hi
    · exact hlast.append _
  | succ resets ih =>
    intro i tr tr₀ res hi h
    obtain ⟨tr₁, tr₂, p, rfl, hpolls, hrest⟩ := says_bind.mp h
    split_ifs at hrest with hcaptured
    · obtain ⟨rfl, rfl⟩ := says_pure.mp hrest
      rw [List.append_nil]
      obtain ⟨rfl, hp⟩ | hlast := polls_last _ hpolls
      · rw [List.append_nil, hp]
        exact hi
      · exact hlast.append _
    · obtain ⟨r, tr₃, rfl, hagain⟩ := says_item.mp hrest
      obtain ⟨tr₄, tr₅, _, rfl, hdrains, hissues⟩ := says_bind.mp hagain
      obtain ⟨tr₆, tr₇, j, rfl, hissue, hattempts⟩ := says_bind.mp hissues
      have hlast := ih (issueRead_last hissue) hattempts
      have hwhole : tr₀ ++ (tr₁ ++ (dmiresetItem, r) :: (tr₄ ++ (tr₆ ++ tr₇))) =
          (tr₀ ++ tr₁ ++ (dmiresetItem, r) :: tr₄) ++ (tr₆ ++ tr₇) := by simp
      rw [hwhole]
      exact hlast.append _

end

end JtagDmiReadSeq

section
variable {addr : BitVec 7} {ir : BitVec 5} {tr : List (JtagTxn × JtagTxn)} {res : JtagTxn × Bool}

/-- **The requests of a read**: one for each attempt. -/
theorem jtagDmiReadSeq_requests (h : Says (jtagDmiReadSeq addr) tr res) (htr : Completed tr) :
    ∃ k, (1 ≤ k ∧ k ≤ 5) ∧ dmiRequests (reported ir tr) = List.replicate k (readOp addr) := by
  obtain ⟨tr₁, tr₂, i, rfl, hissue, hattempts⟩ := says_bind.mp h
  obtain ⟨htr₁, htr₂⟩ := completed_append.mp htr
  obtain ⟨k, hk, hrequests⟩ := attempts_requests MaxBusyResets (standing ir tr₁) hattempts htr₂
  refine ⟨k + 1, ⟨by omega, Nat.succ_le_succ hk⟩, ?_⟩
  rw [reported_append, dmiRequests_append, issueRead_requests hissue htr₁, hrequests]
  rfl

/-- A read that reports an error did not see the DTM ready. -/
theorem jtagDmiReadSeq_gaveUp (h : Says (jtagDmiReadSeq addr) tr res) (herror : res.2 = true) :
    res.1.dmiStatus.ne DMI_STAT_BUSY = false := by
  obtain ⟨tr₁, tr₂, i, rfl, hissue, hattempts⟩ := says_bind.mp h
  exact attempts_gaveUp MaxBusyResets (issueRead_gaveUp hissue) hattempts herror

/-- **The record of the last item** is the last one, and DMI stands after it. -/
theorem jtagDmiReadSeq_last (ir : BitVec 5) (h : Says (jtagDmiReadSeq addr) tr res) (htr : Completed tr) :
    standing ir tr = JTAG_DMI ∧ ∃ rs t, reported ir tr = rs ++ [t] ∧ t.irVal = JTAG_DMI ∧
      t.dmiStatus = res.1.dmiStatus ∧ t.dmiRdata = res.1.dmiRdata := by
  obtain ⟨tr₁, tr₂, i, rfl, hissue, hattempts⟩ := says_bind.mp h
  obtain ⟨tr', q, hq, hlast⟩ := attempts_last MaxBusyResets (issueRead_last hissue) hattempts
  rw [hlast] at htr ⊢
  have hr : res.1.Completes q := (completed_append.mp htr).2 _ (List.mem_singleton_self _)
  have hpacks : ∃ o, q.Packs o ∧ q.phase = .irThenDr ∧ q.irVal = JTAG_DMI := by
    rcases hq with rfl | rfl
    · exact ⟨_, nopItem_packs, rfl, rfl⟩
    · exact ⟨_, readItem_packs addr, rfl, rfl⟩
  obtain ⟨o, hpacks, hphase, hir⟩ := hpacks
  obtain ⟨hdmi, -, hstatus, hrdata⟩ := hpacks.scanRecord hr
  refine ⟨?_, reported ir tr', res.1.scanRecord JTAG_DMI, ?_, hdmi, hstatus, hrdata⟩
  · rw [standing_append, standing_cons_of_select hphase (.inl hir) hr, hir]
    rfl
  · rw [reported_append, reported_cons_of_select hphase (.inl hir) hr, hir]
    rfl

end

/-- **The read over a DTM.**  Between records that a DTM accounts for, the sequence is `body`. -/
theorem jtagDmiReadSeq_explained {dm : Dm} {addr : BitVec 7} {d d' : Dtm} {ir : BitVec 5}
    {tr : List (JtagTxn × JtagTxn)} {res : JtagTxn × Bool} (h : Says (jtagDmiReadSeq addr) tr res)
    (htr : Completed tr) (hd : d.Explains dm (reported ir tr) d') :
    d' = (body dm addr d).dtm ∧ Brings res.1 (body dm addr d).txn ∧ res.2 = (body dm addr d).error := by
  obtain ⟨tr₁, tr₂, i, rfl, hissue, hattempts⟩ := says_bind.mp h
  obtain ⟨htr₁, htr₂⟩ := completed_append.mp htr
  rw [reported_append] at hd
  obtain ⟨d₁, hd₁, hd₂⟩ := Dtm.explains_append.mp hd
  obtain ⟨rfl, hitem, hbusy⟩ := issueRead_explained hissue htr₁ hd₁
  have hend := attempts_explained MaxBusyResets hattempts htr₂ hitem hd₂
  rw [hbusy] at hend
  exact hend

end RiscvDbg

import RiscvDbg.Jtag.Records

/-!
# A DMI read over a busy DTM

Model of `jtag_dmi_read_seq` (`sv/sequences/dmi_read_seq.sv`), which reads a DMI register through a DTM that may
be busy.  The DTM is not part of the repository; it is the one of the Debug Specification, section 6.1.5, with a
DM behind it that may take any time, or for ever, and may answer anything.

* `Dm` — how long each operation is in progress, counted in scans, and what its answer is.
* `Dtm` — the operations started so far, the one in progress, `dmistat` and the data register.
* `Dtm.scan`, `Dtm.dmireset` — one scan of `dmi`, one write of `dtmcs.dmireset`.
* `issueRead`, `polls`, `drains`, `attempts`, `body` — the sequence, with the loops as recursions on what is left
  of their bounds.
* `dmi_read_fresh` — **the sequence ends, and what it returns with status success is the answer to a read that
  it started itself.**

The argument is about `dmistat`.  A request scan that is not discarded leaves it clear and its own read in
progress, so the next scan that is not busy brings the answer to that read; any other request scan leaves it
set, and no scan reports success before the next `dmireset`.
-/

set_option autoImplicit false

namespace RiscvDbg

/-! ## The DTM -/

/-- An operation of the DMI. -/
structure DmiRequest where
  op : BitVec 2
  addr : BitVec 7
  data : BitVec 32
  deriving DecidableEq, Repr

/-- What the DM answers. -/
structure DmAnswer where
  failed : Bool
  data : BitVec 32
  deriving DecidableEq, Repr

/-- The DM, by the number of the operation: how many scans find it in progress (`none`: all of them), and
the answer. -/
structure Dm where
  latency : Nat → Option Nat
  answer : Nat → DmAnswer

/-- What a scan captures. -/
structure Capture where
  dmiStatus : BitVec 2
  dmiRdata : BitVec 32
  deriving DecidableEq, Repr

/-- The DTM.  `started` and `scans` are not in the hardware: they record what has happened. -/
structure Dtm where
  started : List DmiRequest := []
  /-- The number of the operation in progress, and how many scans it stays so. -/
  inProgress : Option (Nat × Option Nat) := none
  dmistat : BitVec 2 := 0
  data : BitVec 32 := 0
  scans : Nat := 0
  deriving DecidableEq, Repr

namespace Dtm

/-- The operation in progress goes on until the next scan. -/
def progress (dm : Dm) (d : Dtm) : Dtm :=
  match d.inProgress with
  | some (n, some 0) =>
    { d with
      inProgress := none
      dmistat := if d.dmistat = 0 ∧ (dm.answer n).failed = true then DMI_STAT_FAILED else d.dmistat
      data := (dm.answer n).data }
  | some (n, some (k + 1)) => { d with inProgress := some (n, some k) }
  | _ => d

/-- The capture of a scan: one that finds an operation in progress makes busy stick. -/
def capture (dm : Dm) (d : Dtm) : Dtm :=
  let d := progress dm d
  { d with
    dmistat := if d.dmistat = 0 ∧ d.inProgress.isSome = true then DMI_STAT_BUSY else d.dmistat
    scans := d.scans + 1 }

/-- The update of a scan: with `dmistat` set the operation is discarded, and a nop does nothing. -/
def update (dm : Dm) (d : Dtm) (o : DmiRequest) : Dtm :=
  if d.dmistat = 0 ∧ o.op ≠ DMI_NOP then
    { d with started := d.started ++ [o], inProgress := some (d.started.length, dm.latency d.started.length) }
  else d

/-- One scan of `dmi`. -/
def scan (dm : Dm) (d : Dtm) (o : DmiRequest) : Dtm × Capture :=
  let d := capture dm d
  (update dm d o, ⟨d.dmistat, d.data⟩)

/-- One scan of `dtmcs` with `dmireset`. -/
def dmireset (dm : Dm) (d : Dtm) : Dtm :=
  let d := progress dm d
  { d with dmistat := 0, scans := d.scans + 1 }

end Dtm

/-! ## The sequence -/

namespace JtagDmiReadSeq

def MaxBusyPolls : Nat := 64
def MaxBusyResets : Nat := 4
def BusyDrainScans : Nat := 8

/-- The request, and the scan that only looks. -/
def readOp (addr : BitVec 7) : DmiRequest := ⟨DMI_READ, addr, 0⟩

def nop : DmiRequest := ⟨DMI_NOP, 0, 0⟩

/-- `issue_read`: the DTM, the item and `req_busy`. -/
def issueRead (dm : Dm) (addr : BitVec 7) (d : Dtm) : Dtm × Capture × Bool :=
  let r := d.scan dm (readOp addr)
  (r.1, r.2, r.2.dmiStatus == DMI_STAT_BUSY)

/-- Up to `n` polls: the DTM, the last item and `captured`. -/
def polls (dm : Dm) : Nat → Dtm → Capture → Dtm × Capture × Bool
  | 0, d, txn => (d, txn, false)
  | n + 1, d, _ =>
    let r := d.scan dm nop
    if r.2.dmiStatus ≠ DMI_STAT_BUSY then (r.1, r.2, true) else polls dm n r.1 r.2

/-- The scans after a `dmireset`. -/
def drains (dm : Dm) : Nat → Dtm → Dtm
  | 0, d => d
  | n + 1, d => drains dm n (d.scan dm nop).1

/-- How the sequence ends: the DTM, the last item, and whether a `DMI_RD` error was reported. -/
structure Result where
  dtm : Dtm
  txn : Capture
  error : Bool
  deriving DecidableEq, Repr

/-- `rsp_data`. -/
def Result.rspData (r : Result) : BitVec 32 := r.txn.dmiRdata

/-- The polls of one attempt: a busy request was never queued, so there is nothing to poll for. -/
def polled (dm : Dm) (d : Dtm) (txn : Capture) (reqBusy : Bool) : Dtm × Capture × Bool :=
  polls dm (if reqBusy then 0 else MaxBusyPolls) d txn

/-- The attempts, with the number of resets that are left. -/
def attempts (dm : Dm) (addr : BitVec 7) : Nat → Dtm → Capture → Bool → Result
  | resets, d, txn, reqBusy =>
    let p := polled dm d txn reqBusy
    if p.2.2 then ⟨p.1, p.2.1, false⟩
    else
      match resets with
      | 0 => ⟨p.1, p.2.1, true⟩
      | resets + 1 =>
        let i := issueRead dm addr (drains dm BusyDrainScans (p.1.dmireset dm))
        attempts dm addr resets i.1 i.2.1 i.2.2

/-- `body`. -/
def body (dm : Dm) (addr : BitVec 7) (d : Dtm) : Result :=
  let i := issueRead dm addr d
  attempts dm addr MaxBusyResets i.1 i.2.1 i.2.2

end JtagDmiReadSeq

/-! ## What a scan does -/

namespace Dtm

variable {dm : Dm} {d : Dtm}

@[simp] theorem progress_started : (d.progress dm).started = d.started := by
  unfold progress
  split <;> rfl

@[simp] theorem progress_scans : (d.progress dm).scans = d.scans := by
  unfold progress
  split <;> rfl

/-- A status that sticks does so while the operation goes on. -/
theorem progress_dmistat (h : d.dmistat ≠ 0) : (d.progress dm).dmistat = d.dmistat := by
  unfold progress
  split
  · exact if_neg (fun hd => h hd.1)
  · rfl
  · rfl

@[simp] theorem capture_started : (d.capture dm).started = d.started := progress_started

@[simp] theorem capture_scans : (d.capture dm).scans = d.scans + 1 := by
  simp [capture]

theorem capture_dmistat (h : d.dmistat ≠ 0) : (d.capture dm).dmistat = d.dmistat := by
  simp only [capture, progress_dmistat h]
  exact if_neg (fun hd => h hd.1)

@[simp] theorem update_dmistat (o : DmiRequest) : (d.update dm o).dmistat = d.dmistat := by
  unfold update
  split <;> rfl

@[simp] theorem update_scans (o : DmiRequest) : (d.update dm o).scans = d.scans := by
  unfold update
  split <;> rfl

/-- What a scan reports is what `dmistat` is afterwards. -/
theorem scan_status (o : DmiRequest) : (d.scan dm o).2.dmiStatus = (d.scan dm o).1.dmistat := by
  simp [scan]

@[simp] theorem scan_scans (o : DmiRequest) : (d.scan dm o).1.scans = d.scans + 1 := by
  simp [scan]

/-- A status that sticks is reported by every scan. -/
theorem scan_of_dmistat (h : d.dmistat ≠ 0) (o : DmiRequest) : (d.scan dm o).1.dmistat = d.dmistat := by
  simp [scan, capture_dmistat h]

theorem started_le_scan (o : DmiRequest) : d.started.length ≤ (d.scan dm o).1.started.length := by
  simp only [scan, update]
  split
  · simp
  · simp

@[simp] theorem scan_nop_started : (d.scan dm JtagDmiReadSeq.nop).1.started = d.started := by
  simp [scan, update, JtagDmiReadSeq.nop]

/-- The operation with number `n` is in progress and nothing has gone wrong. -/
def Carries (d : Dtm) (n : Nat) : Prop := d.dmistat = 0 ∧ ∃ k, d.inProgress = some (n, k)

/-- **The scan after an operation was started**: it is busy, or brings the answer to that operation. -/
theorem Carries.scan {n : Nat} (h : d.Carries n) (o : DmiRequest) :
    (d.scan dm o).1.dmistat ≠ 0 ∨
      (dm.answer n).failed = false ∧ (d.scan dm o).2.dmiRdata = (dm.answer n).data := by
  obtain ⟨hstat, k, hk⟩ := h
  match k with
  | none =>
    refine .inl ?_
    simp +decide [Dtm.scan, capture, progress, hk, hstat]
  | some (k + 1) =>
    refine .inl ?_
    simp +decide [Dtm.scan, capture, progress, hk, hstat]
  | some 0 =>
    cases hf : (dm.answer n).failed with
    | false =>
      refine .inr ⟨rfl, ?_⟩
      simp [Dtm.scan, capture, progress, hk]
    | true =>
      refine .inl ?_
      simp +decide [Dtm.scan, capture, progress, hk, hstat, hf]

/-- **A request scan**: it is discarded and reports why, or its operation is in progress. -/
theorem scan_read (addr : BitVec 7) :
    (d.scan dm (JtagDmiReadSeq.readOp addr)).1.dmistat ≠ 0 ∨
      (d.scan dm (JtagDmiReadSeq.readOp addr)).1.started = d.started ++ [JtagDmiReadSeq.readOp addr] ∧
      (d.scan dm (JtagDmiReadSeq.readOp addr)).1.Carries d.started.length := by
  by_cases h : (d.capture dm).dmistat = 0
  · have hop : (JtagDmiReadSeq.readOp addr).op ≠ DMI_NOP := by
      simp +decide [JtagDmiReadSeq.readOp]
    refine .inr ?_
    simp [scan, update, h, hop, Carries]
  · refine .inl ?_
    simpa [scan] using h

end Dtm

/-! ## The loops -/

namespace JtagDmiReadSeq

variable {dm : Dm} {addr : BitVec 7} {n₀ : Nat}

/-- After a request scan: it was discarded, or a read with a number from `n₀` on is in progress. -/
def Issued (addr : BitVec 7) (n₀ : Nat) (d : Dtm) : Prop :=
  d.dmistat ≠ 0 ∨ ∃ n, n₀ ≤ n ∧ d.started[n]? = some (readOp addr) ∧ d.Carries n

/-- The item is the answer to a read with a number from `n₀` on. -/
def Fresh (dm : Dm) (addr : BitVec 7) (n₀ : Nat) (d : Dtm) (txn : Capture) : Prop :=
  ∃ n, n₀ ≤ n ∧ d.started[n]? = some (readOp addr) ∧ (dm.answer n).failed = false ∧
    txn.dmiRdata = (dm.answer n).data

theorem issueRead_issued {d : Dtm} (h : n₀ ≤ d.started.length) : Issued addr n₀ (issueRead dm addr d).1 := by
  obtain hstat | ⟨hstarted, hcarries⟩ := @Dtm.scan_read dm d addr
  · exact .inl hstat
  · refine .inr ⟨d.started.length, h, ?_, hcarries⟩
    rw [issueRead, hstarted]
    simp

theorem started_le_issueRead (d : Dtm) : d.started.length ≤ (issueRead dm addr d).1.started.length :=
  Dtm.started_le_scan _

@[simp] theorem polls_started : ∀ (n : Nat) (d : Dtm) (txn : Capture), (polls dm n d txn).1.started = d.started := by
  intro n
  induction n with
  | zero => intro d txn; rfl
  | succ n ih =>
    intro d txn
    simp only [polls]
    split
    · simp
    · rw [ih, Dtm.scan_nop_started]

theorem polls_scans : ∀ (n : Nat) (d : Dtm) (txn : Capture), (polls dm n d txn).1.scans ≤ d.scans + n := by
  intro n
  induction n with
  | zero => intro d txn; exact Nat.le_refl _
  | succ n ih =>
    intro d txn
    simp only [polls]
    split
    · rw [Dtm.scan_scans]
      omega
    · have hrest := ih (d.scan dm nop).1 (d.scan dm nop).2
      rw [Dtm.scan_scans] at hrest
      omega

/-- **Polls bring the answer to the read in progress, or no success.** -/
theorem polls_fresh :
    ∀ (n : Nat) (d : Dtm) (txn : Capture), Issued addr n₀ d → (polls dm n d txn).2.2 = true →
      (polls dm n d txn).2.1.dmiStatus = DMI_STAT_SUCCESS →
      Fresh dm addr n₀ (polls dm n d txn).1 (polls dm n d txn).2.1 := by
  intro n
  induction n with
  | zero => intro d txn _ hcaptured; cases hcaptured
  | succ n ih =>
    intro d txn hissued
    simp only [polls]
    split
    · intro _ hsuccess
      have hclear : (d.scan dm nop).1.dmistat = 0 := (Dtm.scan_status nop).symm.trans hsuccess
      obtain hstat | ⟨n, hn, hread, hcarries⟩ := hissued
      · rw [Dtm.scan_of_dmistat hstat] at hclear
        exact absurd hclear hstat
      · obtain hbusy | hanswer := @Dtm.Carries.scan dm d n hcarries nop
        · exact absurd hclear hbusy
        · exact ⟨n, hn, by rw [Dtm.scan_nop_started, hread], hanswer⟩
    · -- busy sticks, so no later poll succeeds
      rename_i hbusy
      refine ih _ _ (.inl ?_)
      rw [← Dtm.scan_status, not_not.mp hbusy]
      decide

@[simp] theorem drains_started : ∀ (n : Nat) (d : Dtm), (drains dm n d).started = d.started := by
  intro n
  induction n with
  | zero => intro d; rfl
  | succ n ih => intro d; rw [drains, ih, Dtm.scan_nop_started]

@[simp] theorem drains_scans : ∀ (n : Nat) (d : Dtm), (drains dm n d).scans = d.scans + n := by
  intro n
  induction n with
  | zero => intro d; rfl
  | succ n ih =>
    intro d
    rw [drains, ih, Dtm.scan_scans]
    omega

/-- The DTM at the next request: reset and drained. -/
def recovered (dm : Dm) (d : Dtm) : Dtm := drains dm BusyDrainScans (d.dmireset dm)

@[simp] theorem recovered_started (d : Dtm) : (recovered dm d).started = d.started := by
  simp [recovered, Dtm.dmireset]

theorem recovered_scans (d : Dtm) : (recovered dm d).scans = d.scans + 9 := by
  simp [recovered, Dtm.dmireset, BusyDrainScans]

/-- An attempt that captures something is the last one. -/
theorem attempts_of_captured {resets : Nat} {d : Dtm} {txn : Capture} {reqBusy : Bool}
    (h : (polled dm d txn reqBusy).2.2 = true) :
    attempts dm addr resets d txn reqBusy = ⟨(polled dm d txn reqBusy).1, (polled dm d txn reqBusy).2.1, false⟩ := by
  rw [attempts.eq_def]
  exact if_pos h

theorem attempts_of_busy {d : Dtm} {txn : Capture} {reqBusy : Bool} (h : (polled dm d txn reqBusy).2.2 = false) :
    attempts dm addr 0 d txn reqBusy = ⟨(polled dm d txn reqBusy).1, (polled dm d txn reqBusy).2.1, true⟩ := by
  rw [attempts]
  exact if_neg (by simp [h])

theorem attempts_succ_of_busy {resets : Nat} {d : Dtm} {txn : Capture} {reqBusy : Bool}
    (h : (polled dm d txn reqBusy).2.2 = false) {i : Dtm × Capture × Bool}
    (hi : issueRead dm addr (recovered dm (polled dm d txn reqBusy).1) = i) :
    attempts dm addr (resets + 1) d txn reqBusy = attempts dm addr resets i.1 i.2.1 i.2.2 := by
  subst hi
  rw [attempts]
  exact if_neg (by simp [h])

theorem attempts_fresh :
    ∀ (resets : Nat) (d : Dtm) (txn : Capture) (reqBusy : Bool), n₀ ≤ d.started.length → Issued addr n₀ d →
      (attempts dm addr resets d txn reqBusy).error = false →
      (attempts dm addr resets d txn reqBusy).txn.dmiStatus = DMI_STAT_SUCCESS →
      Fresh dm addr n₀ (attempts dm addr resets d txn reqBusy).dtm (attempts dm addr resets d txn reqBusy).txn := by
  intro resets
  induction resets with
  | zero =>
    intro d txn reqBusy _ hissued
    cases hcaptured : (polled dm d txn reqBusy).2.2 with
    | true =>
      rw [attempts_of_captured hcaptured]
      intro _ hsuccess
      exact polls_fresh _ d txn hissued hcaptured hsuccess
    | false =>
      rw [attempts_of_busy hcaptured]
      intro herror
      cases herror
  | succ resets ih =>
    intro d txn reqBusy hd hissued
    cases hcaptured : (polled dm d txn reqBusy).2.2 with
    | true =>
      rw [attempts_of_captured hcaptured]
      intro _ hsuccess
      exact polls_fresh _ d txn hissued hcaptured hsuccess
    | false =>
      have hstarted : n₀ ≤ (recovered dm (polled dm d txn reqBusy).1).started.length := by
        rw [recovered_started, polled, polls_started]
        exact hd
      rw [attempts_succ_of_busy hcaptured rfl]
      exact ih _ _ _ (Nat.le_trans hstarted (started_le_issueRead _)) (issueRead_issued hstarted)

theorem polled_scans (d : Dtm) (txn : Capture) (reqBusy : Bool) :
    (polled dm d txn reqBusy).1.scans ≤ d.scans + MaxBusyPolls := by
  refine Nat.le_trans (polls_scans _ d txn) (Nat.add_le_add_left ?_ _)
  split <;> omega

/-- Each attempt makes at most `MaxBusyPolls` scans, and with its recovery and request ten more. -/
theorem attempts_scans :
    ∀ (resets : Nat) (d : Dtm) (txn : Capture) (reqBusy : Bool),
      (attempts dm addr resets d txn reqBusy).dtm.scans ≤ d.scans + MaxBusyPolls + resets * (MaxBusyPolls + 10) := by
  intro resets
  induction resets with
  | zero =>
    intro d txn reqBusy
    have hpolls : (polled dm d txn reqBusy).1.scans ≤ d.scans + MaxBusyPolls := polled_scans d txn reqBusy
    cases hcaptured : (polled dm d txn reqBusy).2.2 with
    | true => rw [attempts_of_captured hcaptured]; dsimp only; omega
    | false => rw [attempts_of_busy hcaptured]; dsimp only; omega
  | succ resets ih =>
    intro d txn reqBusy
    have hpolls : (polled dm d txn reqBusy).1.scans ≤ d.scans + MaxBusyPolls := polled_scans d txn reqBusy
    cases hcaptured : (polled dm d txn reqBusy).2.2 with
    | true => rw [attempts_of_captured hcaptured]; dsimp only; omega
    | false =>
      have hissue : (issueRead dm addr (recovered dm (polled dm d txn reqBusy).1)).1.scans =
          (polled dm d txn reqBusy).1.scans + 10 := by
        rw [issueRead, Dtm.scan_scans, recovered_scans]
      rw [attempts_succ_of_busy hcaptured rfl, Nat.succ_mul]
      have hrest := ih (issueRead dm addr (recovered dm (polled dm d txn reqBusy).1)).1
        (issueRead dm addr (recovered dm (polled dm d txn reqBusy).1)).2.1
        (issueRead dm addr (recovered dm (polled dm d txn reqBusy).1)).2.2
      omega

/-- **A DMI read does not return stale data.**  Whatever state the DTM is in at first, however long the
operations take and whatever the DM answers, the sequence ends after at most 361 scans, and if it reports no
error and captured success, `rsp_data` is the answer to a read of `addr` that it started. -/
theorem dmi_read_fresh (dm : Dm) (addr : BitVec 7) (d : Dtm) :
    (body dm addr d).dtm.scans ≤ d.scans + 361 ∧
      ((body dm addr d).error = false → (body dm addr d).txn.dmiStatus = DMI_STAT_SUCCESS →
        ∃ n, d.started.length ≤ n ∧ (body dm addr d).dtm.started[n]? = some ⟨DMI_READ, addr, 0⟩ ∧
          (dm.answer n).failed = false ∧ (body dm addr d).rspData = (dm.answer n).data) := by
  refine ⟨?_, ?_⟩
  · have hscans := @attempts_scans dm addr MaxBusyResets (issueRead dm addr d).1
      (issueRead dm addr d).2.1 (issueRead dm addr d).2.2
    have hissue : (issueRead dm addr d).1.scans = d.scans + 1 := Dtm.scan_scans _
    rw [hissue] at hscans
    exact hscans
  · exact attempts_fresh MaxBusyResets _ _ _ (started_le_issueRead d) (issueRead_issued (Nat.le_refl _))

/-- A DM whose second operation is in progress for three scans and whose others are at once; the answer is the
number of the operation. -/
def slowSecond : Dm where
  latency := fun n => some (if n = 1 then 3 else 0)
  answer := fun n => ⟨false, BitVec.ofNat 32 n⟩

/-- The read meets busy, is started again as the third operation and returns the answer to that one, not
the data of the write before it. -/
theorem dmi_read_fresh_slow :
    (body slowSecond 0x16 { started := [⟨DMI_WRITE, 0x17, 0⟩], data := 0x11111111 }).error = false ∧
      (body slowSecond 0x16 { started := [⟨DMI_WRITE, 0x17, 0⟩], data := 0x11111111 }).rspData = 2 ∧
      ∃ n, 1 ≤ n ∧ (body slowSecond 0x16 { started := [⟨DMI_WRITE, 0x17, 0⟩], data := 0x11111111 }).dtm.started[n]? =
          some ⟨DMI_READ, 0x16, 0⟩ ∧ (slowSecond.answer n).failed = false ∧
        (body slowSecond 0x16 { started := [⟨DMI_WRITE, 0x17, 0⟩], data := 0x11111111 }).rspData =
          (slowSecond.answer n).data :=
  ⟨by decide, by decide,
    (dmi_read_fresh slowSecond 0x16 { started := [⟨DMI_WRITE, 0x17, 0⟩], data := 0x11111111 }).2 (by decide) (by decide)⟩

end JtagDmiReadSeq

end RiscvDbg

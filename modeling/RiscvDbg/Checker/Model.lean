import RiscvDbg.Jtag.Records
import RiscvDbg.RefModel.Model

/-!
# The register checker

Model of the part of `dm_checker` (`sv/env/dm_checker.sv`) that owns the reference model: the task
`get_dtm_txns` with `handle_txn` and `check_read_response`.

* `Sample` — one record of the monitor, with the busy bit the backdoor shows when it is handled.
* `DmChecker` — the reference model, the one-deep register of the outstanding request, the counters.
* `DmChecker.getDtmTxn` — one turn of the loop; a run is `Runs.run DmChecker.getDtmTxn`.

The field `log` is not in the source.  It records, in order, what the checker does to its model
(`CheckerEvent`); `after_model` says that the model is exactly what the log makes of the first one, and
`after_counters` that the counters are exactly what the log has to count: a response that is not a failure, one
with an unknown bit, and one that differs from the prediction (`CheckerEvent.Differs`, bit by bit).

One turn is described by four lemmas: what it adds to the log (`getDtmTxn_log`), what it does to the
model (`getDtmTxn_model`) and to the counters (`getDtmTxn_counters`), and which read is waiting afterwards
(`getDtmTxn_waiting`).
-/

set_option autoImplicit false

namespace RiscvDbg

/-- A record, and `abstractcs.busy` as the backdoor shows it; `none` without a backdoor. -/
structure Sample where
  txn : JtagTxn
  cmdbusy : Option Bool

namespace Sample

/-- A shift of the DMI register. -/
def isDmi (s : Sample) : Bool := s.txn.irVal == JTAG_DMI

/-- A DMI shift that does not report busy, so its response half answers the request before. -/
def answers (s : Sample) : Bool := s.isDmi && s.txn.dmiStatus.ne DMI_STAT_BUSY

/-- A `dtmcs` shift with `dmireset` or `dmihardreset`. -/
def resetsDtm (s : Sample) : Bool := s.txn.irVal == JTAG_DTMCS && s.txn.drDataIn.extractLsb' 16 2 != 0

/-- A DMI shift that asks for a read. -/
def isRead (s : Sample) : Bool := s.isDmi && s.txn.dmiOp == DMI_READ

/-- A DMI shift that asks for a write. -/
def isWrite (s : Sample) : Bool := s.isDmi && s.txn.dmiOp == DMI_WRITE

theorem not_resetsDtm_of_isDmi {s : Sample} (h : s.isDmi = true) : s.resetsDtm = false := by
  have hir : s.txn.irVal = JTAG_DMI := eq_of_beq h
  rw [resetsDtm, hir]
  rfl

end Sample

/-- What the checker does to its model. -/
inductive CheckerEvent where
  /-- A write is committed, after the busy bit sampled for it. -/
  | write (addr : BitVec 7) (data : BitVec 32) (busy : Option Bool)
  /-- A response is passed to `check_read_response`, with the model in the state `before`. -/
  | check (addr : BitVec 7) (raw : FourState 32) (status : FourState 2) (before : DmRefModel)

/-- State of `dm_checker`. -/
structure DmChecker where
  model : DmRefModel
  pendingValid : Bool := false
  pendingAddr : BitVec 7 := 0
  pendingOp : BitVec 2 := 0
  totalChecked : Nat := 0
  totalUnknown : Nat := 0
  totalMismatches : Nat := 0
  log : List CheckerEvent := []

namespace DmChecker

/-- `check_read_response`. -/
def checkReadResponse (c : DmChecker) (addr : BitVec 7) (raw : FourState 32) (status : FourState 2) :
    DmChecker :=
  let actual := raw.toBits
  let xz := raw.unknown
  if status.caseEq DMI_STAT_FAILED then c
  else
    let c := { c with totalChecked := c.totalChecked + 1 }
    let c := if xz ≠ 0 || !status.known then { c with totalUnknown := c.totalUnknown + 1 } else c
    let c :=
      if addr = DM_ADDR_DMSTATUS then { c with model := c.model.syncObservedHartSignals actual } else c
    let cmp := DmRefModel.predictMask addr &&& ~~~xz
    let c :=
      if c.model.hasModel addr && actual &&& cmp != c.model.predict addr &&& cmp then
        { c with totalMismatches := c.totalMismatches + 1 }
      else c
    { c with model := c.model.observeRead addr }

/-- Step 1 of `handle_txn`: the response of this shift belongs to the outstanding request. -/
def takeResponse (c : DmChecker) (t : JtagTxn) : DmChecker :=
  if c.pendingValid && t.dmiStatus.ne DMI_STAT_BUSY then
    let c :=
      if c.pendingOp = DMI_READ then
        { c.checkReadResponse c.pendingAddr t.dmiRdata t.dmiStatus with
          log := c.log ++ [.check c.pendingAddr t.dmiRdata t.dmiStatus c.model] }
      else c
    { c with pendingValid := false }
  else c

/-- `set_observed_cmdbusy`, if there is a backdoor. -/
def sampleBusy (m : DmRefModel) : Option Bool → DmRefModel
  | some b => m.setObservedCmdbusy b
  | none => m

/-- Step 2 of `handle_txn`: this shift's own request. -/
def takeRequest (c : DmChecker) (s : Sample) : DmChecker :=
  let t := s.txn
  if t.dmiOp = DMI_WRITE then
    { c with
      model := (sampleBusy c.model s.cmdbusy).onWrite t.dmiAddr t.dmiWdata
      pendingValid := true
      pendingAddr := t.dmiAddr
      pendingOp := DMI_WRITE
      log := c.log ++ [.write t.dmiAddr t.dmiWdata s.cmdbusy] }
  else if t.dmiOp = DMI_READ then
    { c with pendingValid := true, pendingAddr := t.dmiAddr, pendingOp := DMI_READ }
  else c

/-- `handle_txn`. -/
def handleTxn (c : DmChecker) (s : Sample) : DmChecker := (c.takeResponse s.txn).takeRequest s

/-- One turn of `get_dtm_txns`. -/
def getDtmTxn (c : DmChecker) (s : Sample) : DmChecker :=
  let t := s.txn
  if t.irVal ≠ JTAG_DTMCS ∧ t.irVal ≠ JTAG_DMI then c
  else if t.irVal = JTAG_DTMCS then
    if t.drDataIn.extractLsb' 16 2 ≠ 0 then { c with pendingValid := false } else c
  else c.handleTxn s

/-- The checker after the records `ss`, started on the model `m`. -/
def after (m : DmRefModel) (ss : List Sample) : DmChecker :=
  Runs.run getDtmTxn { model := m } ss

theorem after_concat (m : DmRefModel) (ss : List Sample) (s : Sample) :
    after m (ss ++ [s]) = (after m ss).getDtmTxn s := Runs.run_concat _ _ _ _

end DmChecker

/-! ## The model and the log -/

/-- The effect of an event on the model. -/
def CheckerEvent.apply (m : DmRefModel) : CheckerEvent → DmRefModel
  | .write addr data busy => (DmChecker.sampleBusy m busy).onWrite addr data
  | .check addr raw status _ =>
    if status.caseEq DMI_STAT_FAILED then m
    else
      (if addr = DM_ADDR_DMSTATUS then m.syncObservedHartSignals raw.toBits else m).observeRead addr

/-- The response is not that of a failed access, which is left to the scoreboard. -/
def CheckerEvent.counts : CheckerEvent → Bool
  | .write _ _ _ => false
  | .check _ _ status _ => !status.caseEq DMI_STAT_FAILED

/-- The response has an unknown bit, in its data or in its status. -/
def CheckerEvent.hasUnknown : CheckerEvent → Bool
  | .write _ _ _ => false
  | .check _ raw status _ => !raw.known || !status.known

/-- The model a response is compared with: one to a read of `dmstatus` first brings the signals of the harts. -/
def DmRefModel.synced (m : DmRefModel) (addr : BitVec 7) (raw : FourState 32) : DmRefModel :=
  if addr = DM_ADDR_DMSTATUS then m.syncObservedHartSignals raw.toBits else m

/-- The response has a known bit that the model, as it is then, predicts otherwise. -/
def CheckerEvent.Differs : CheckerEvent → Prop
  | .write _ _ _ => False
  | .check addr raw _ before =>
    (before.synced addr raw).hasModel addr = true ∧
      ∃ i : Fin 32, (DmRefModel.predictMask addr).getLsbD i = true ∧
        ∃ b, raw.bit? i = some b ∧ b ≠ ((before.synced addr raw).predict addr).getLsbD i

instance (e : CheckerEvent) : Decidable e.Differs :=
  match e with
  | .write _ _ _ => inferInstanceAs (Decidable False)
  | .check _ _ _ _ => inferInstanceAs (Decidable (_ ∧ ∃ _ : Fin 32, _ ∧ ∃ b, _ ∧ b ≠ _))

/-- The events of a log, applied in order. -/
def replay (m : DmRefModel) (log : List CheckerEvent) : DmRefModel := log.foldl CheckerEvent.apply m

theorem replay_append (m : DmRefModel) (log log' : List CheckerEvent) :
    replay m (log ++ log') = replay (replay m log) log' := List.foldl_append

namespace DmChecker

variable {c : DmChecker}

/-- From `c` to `c'` the counters have grown by what the events have to count. -/
structure Tallies (c c' : DmChecker) (log : List CheckerEvent) : Prop where
  checked : c'.totalChecked = c.totalChecked + log.countP CheckerEvent.counts
  unknown : c'.totalUnknown = c.totalUnknown + log.countP fun e => e.counts && e.hasUnknown
  mismatches : c'.totalMismatches = c.totalMismatches + log.countP fun e => e.counts && decide e.Differs

theorem Tallies.append {c c' c'' : DmChecker} {log log' : List CheckerEvent} (h : c.Tallies c' log)
    (h' : c'.Tallies c'' log') : c.Tallies c'' (log ++ log') :=
  ⟨by rw [h'.checked, h.checked, List.countP_append, Nat.add_assoc],
    by rw [h'.unknown, h.unknown, List.countP_append, Nat.add_assoc],
    by rw [h'.mismatches, h.mismatches, List.countP_append, Nat.add_assoc]⟩

/-- The comparison under the mask finds a difference exactly where there is a bit to find. -/
theorem masked_ne_iff (m : DmRefModel) (addr : BitVec 7) (raw : FourState 32) :
    (raw.toBits &&& (DmRefModel.predictMask addr &&& ~~~raw.unknown) !=
      m.predict addr &&& (DmRefModel.predictMask addr &&& ~~~raw.unknown)) = true ↔
    ∃ i : Fin 32, (DmRefModel.predictMask addr).getLsbD i = true ∧
      ∃ b, raw.bit? i = some b ∧ b ≠ (m.predict addr).getLsbD i := by
  have hbit : ∀ i : Fin 32, (raw.toBits &&& (DmRefModel.predictMask addr &&& ~~~raw.unknown)).getLsbD i ≠
      (m.predict addr &&& (DmRefModel.predictMask addr &&& ~~~raw.unknown)).getLsbD i ↔
      (DmRefModel.predictMask addr).getLsbD i = true ∧
        ∃ b, raw.bit? i = some b ∧ b ≠ (m.predict addr).getLsbD i := by
    intro i
    simp only [FourState.toBits, FourState.bit?, BitVec.getLsbD_and, BitVec.getLsbD_not]
    cases (DmRefModel.predictMask addr).getLsbD i <;> cases hx : raw.unknown.getLsbD i <;> simp [i.isLt]
  rw [bne_iff_ne]
  constructor
  · intro hne
    by_contra hall
    refine hne (BitVec.eq_of_getLsbD_eq fun i hi => ?_)
    by_contra hdiff
    exact hall ⟨⟨i, hi⟩, (hbit ⟨i, hi⟩).mp hdiff⟩
  · rintro ⟨i, hi⟩ heq
    exact (hbit i).mpr hi (by rw [heq])

/-- **What is checked is counted**: once, and as different exactly if some bit differs from the prediction. -/
theorem checkReadResponse_counters (addr : BitVec 7) (raw : FourState 32) (status : FourState 2) :
    c.Tallies (c.checkReadResponse addr raw status) [.check addr raw status c.model] := by
  cases hfailed : status.caseEq DMI_STAT_FAILED with
  | true =>
    have hsame : c.checkReadResponse addr raw status = c := by rw [checkReadResponse, if_pos hfailed]
    have hno : (CheckerEvent.check addr raw status c.model).counts = false := by simp [CheckerEvent.counts, hfailed]
    rw [hsame]
    constructor <;> simp [hno]
  | false =>
    have hyes : (CheckerEvent.check addr raw status c.model).counts = true := by simp [CheckerEvent.counts, hfailed]
    have hunknown : (decide (raw.unknown ≠ 0) || !status.known) =
        (CheckerEvent.check addr raw status c.model).hasUnknown := by
      rw [CheckerEvent.hasUnknown, FourState.known, Bool.eq_iff_iff]
      simp [FourState.known]
    have hdiffers : ((c.model.synced addr raw).hasModel addr &&
        raw.toBits &&& (DmRefModel.predictMask addr &&& ~~~raw.unknown) !=
          (c.model.synced addr raw).predict addr &&& (DmRefModel.predictMask addr &&& ~~~raw.unknown)) =
        decide (CheckerEvent.check addr raw status c.model).Differs := by
      rw [Bool.eq_iff_iff, Bool.and_eq_true, masked_ne_iff, decide_eq_true_iff]
      rfl
    constructor
    · rw [List.countP_singleton, if_pos hyes]
      simp only [checkReadResponse, hfailed, Bool.false_eq_true, if_false]
      split_ifs <;> rfl
    · rw [List.countP_singleton, hyes, Bool.true_and, ← hunknown]
      simp only [checkReadResponse, hfailed, Bool.false_eq_true, if_false]
      split_ifs <;> rfl
    · rw [List.countP_singleton, hyes, Bool.true_and, ← hdiffers]
      simp only [checkReadResponse, hfailed, Bool.false_eq_true, if_false, DmRefModel.synced]
      split_ifs <;> rfl

theorem checkReadResponse_model (addr : BitVec 7) (raw : FourState 32) (status : FourState 2) :
    (c.checkReadResponse addr raw status).model =
      (CheckerEvent.check addr raw status c.model).apply c.model := by
  simp only [checkReadResponse, CheckerEvent.apply]
  split
  · rfl
  · repeat' split
    all_goals rfl

/-! ## One turn -/

/-- The address of the read that waits for its response. -/
def waiting (c : DmChecker) : Option (BitVec 7) :=
  if c.pendingValid && c.pendingOp == DMI_READ then some c.pendingAddr else none

/-- The check this record causes. -/
def checks (c : DmChecker) (s : Sample) : List CheckerEvent :=
  if s.answers then
    c.waiting.toList.map fun addr => .check addr s.txn.dmiRdata s.txn.dmiStatus c.model
  else []

end DmChecker

/-- The write this record commits. -/
def Sample.writes (s : Sample) : List CheckerEvent :=
  if s.isWrite then [.write s.txn.dmiAddr s.txn.dmiWdata s.cmdbusy] else []

namespace DmChecker

variable {c : DmChecker}

/-- A response is taken: the read that waits is checked, and nothing waits any more. -/
theorem takeResponse_of_ne {t : JtagTxn} (h : t.dmiStatus.ne DMI_STAT_BUSY = true) :
    (c.takeResponse t).waiting = none ∧
      (c.takeResponse t).log =
        c.log ++ c.waiting.toList.map (fun addr => .check addr t.dmiRdata t.dmiStatus c.model) ∧
      (c.takeResponse t).model =
        replay c.model (c.waiting.toList.map fun addr => .check addr t.dmiRdata t.dmiStatus c.model) := by
  unfold takeResponse
  rw [h, Bool.and_true]
  cases hv : c.pendingValid with
  | false => simp [waiting, hv, replay]
  | true =>
    by_cases hop : c.pendingOp = DMI_READ
    · simp [waiting, hv, hop, replay, checkReadResponse_model]
    · simp [waiting, hv, hop, replay]

theorem takeResponse_of_busy {t : JtagTxn} (h : t.dmiStatus.ne DMI_STAT_BUSY = false) :
    c.takeResponse t = c := by
  rw [takeResponse, h, Bool.and_false, if_neg Bool.false_ne_true]

theorem getDtmTxn_of_isDmi {s : Sample} (h : s.isDmi = true) : c.getDtmTxn s = c.handleTxn s := by
  have hir : s.txn.irVal = JTAG_DMI := eq_of_beq h
  have hne : JTAG_DMI ≠ JTAG_DTMCS := by decide
  simp [getDtmTxn, hir, hne]

theorem getDtmTxn_of_not_isDmi {s : Sample} (h : s.isDmi = false) :
    c.getDtmTxn s = if s.resetsDtm then { c with pendingValid := false } else c := by
  have hir : s.txn.irVal ≠ JTAG_DMI := ne_of_beq_false h
  unfold getDtmTxn Sample.resetsDtm
  by_cases hd : s.txn.irVal = JTAG_DTMCS
  · simp [hd]
  · simp [hd, hir]

/-- The read that waits after one record. -/
theorem getDtmTxn_waiting (s : Sample) :
    (c.getDtmTxn s).waiting =
      if s.isRead then some s.txn.dmiAddr
      else if s.isWrite || s.answers || s.resetsDtm then none
      else c.waiting := by
  cases hd : s.isDmi with
  | false =>
    rw [getDtmTxn_of_not_isDmi hd]
    simp only [Sample.isRead, Sample.isWrite, Sample.answers, hd, Bool.false_and, Bool.false_or,
      Bool.false_eq_true, if_false]
    split
    · rfl
    · rfl
  | true =>
    rw [getDtmTxn_of_isDmi hd, handleTxn, takeRequest]
    simp only [Sample.isRead, Sample.isWrite, Sample.answers, hd, Bool.true_and,
      Sample.not_resetsDtm_of_isDmi hd, Bool.or_false]
    by_cases hw : s.txn.dmiOp = DMI_WRITE
    · have hne : ¬ DMI_WRITE = DMI_READ := by decide
      simp [hw, hne, waiting]
    · by_cases hr : s.txn.dmiOp = DMI_READ
      · simp [hr, waiting, DMI_READ, DMI_WRITE]
      · simp only [hw, hr, if_false, beq_eq_false_iff_ne.mpr hr, beq_eq_false_iff_ne.mpr hw,
          Bool.false_or, Bool.false_eq_true]
        cases hb : s.txn.dmiStatus.ne DMI_STAT_BUSY with
        | true => rw [if_pos rfl, (takeResponse_of_ne hb).1]
        | false => rw [if_neg Bool.false_ne_true, takeResponse_of_busy hb]

/-- What one record adds to the log. -/
theorem getDtmTxn_log (s : Sample) : (c.getDtmTxn s).log = c.log ++ (c.checks s ++ s.writes) := by
  cases hd : s.isDmi with
  | false =>
    rw [getDtmTxn_of_not_isDmi hd]
    simp only [checks, Sample.writes, Sample.answers, Sample.isWrite, hd, Bool.false_and,
      Bool.false_eq_true, if_false, List.append_nil]
    split <;> rfl
  | true =>
    have hresp : (c.takeResponse s.txn).log = c.log ++ c.checks s := by
      simp only [checks, Sample.answers, hd, Bool.true_and]
      cases hb : s.txn.dmiStatus.ne DMI_STAT_BUSY with
      | true => rw [if_pos rfl, (takeResponse_of_ne hb).2.1]
      | false => rw [if_neg Bool.false_ne_true, takeResponse_of_busy hb, List.append_nil]
    have hreq : (c.handleTxn s).log = (c.takeResponse s.txn).log ++ s.writes := by
      simp only [handleTxn, takeRequest, Sample.writes, Sample.isWrite, hd, Bool.true_and, beq_iff_eq]
      by_cases hw : s.txn.dmiOp = DMI_WRITE
      · simp only [if_pos hw]
      · simp only [if_neg hw, List.append_nil]
        split <;> rfl
    rw [getDtmTxn_of_isDmi hd, hreq, hresp, List.append_assoc]

/-- What one record does to the model. -/
theorem getDtmTxn_model (s : Sample) :
    (c.getDtmTxn s).model = replay c.model (c.checks s ++ s.writes) := by
  cases hd : s.isDmi with
  | false =>
    rw [getDtmTxn_of_not_isDmi hd]
    simp only [checks, Sample.writes, Sample.answers, Sample.isWrite, hd, Bool.false_and,
      Bool.false_eq_true, if_false, List.append_nil]
    split <;> rfl
  | true =>
    have hresp : (c.takeResponse s.txn).model = replay c.model (c.checks s) := by
      simp only [checks, Sample.answers, hd, Bool.true_and]
      cases hb : s.txn.dmiStatus.ne DMI_STAT_BUSY with
      | true => rw [if_pos rfl, (takeResponse_of_ne hb).2.2]
      | false => rw [if_neg Bool.false_ne_true, takeResponse_of_busy hb]; rfl
    have hreq : (c.handleTxn s).model = replay (c.takeResponse s.txn).model s.writes := by
      simp only [handleTxn, takeRequest, Sample.writes, Sample.isWrite, hd, Bool.true_and, beq_iff_eq]
      by_cases hw : s.txn.dmiOp = DMI_WRITE
      · simp only [if_pos hw]
        rfl
      · simp only [if_neg hw]
        split <;> rfl
    rw [getDtmTxn_of_isDmi hd, hreq, hresp, replay_append]

theorem Tallies.nil_of_eq {c' : DmChecker} (hchecked : c'.totalChecked = c.totalChecked)
    (hunknown : c'.totalUnknown = c.totalUnknown) (hmismatches : c'.totalMismatches = c.totalMismatches) :
    c.Tallies c' [] := ⟨hchecked, hunknown, hmismatches⟩

/-- What one record does to the counters. -/
theorem getDtmTxn_counters (s : Sample) : c.Tallies (c.getDtmTxn s) (c.checks s) := by
  cases hd : s.isDmi with
  | false =>
    rw [getDtmTxn_of_not_isDmi hd, checks, Sample.answers, hd, Bool.false_and, if_neg Bool.false_ne_true]
    split_ifs <;> exact .nil_of_eq rfl rfl rfl
  | true =>
    have hresp : c.Tallies (c.takeResponse s.txn) (c.checks s) := by
      rw [checks, Sample.answers, hd, Bool.true_and]
      cases hb : s.txn.dmiStatus.ne DMI_STAT_BUSY with
      | false =>
        rw [takeResponse_of_busy hb, if_neg Bool.false_ne_true]
        exact .nil_of_eq rfl rfl rfl
      | true =>
        rw [if_pos rfl, takeResponse, hb, Bool.and_true]
        by_cases hwait : c.pendingValid = true ∧ c.pendingOp = DMI_READ
        · have hcheck := checkReadResponse_counters (c := c) c.pendingAddr s.txn.dmiRdata s.txn.dmiStatus
          simp only [waiting, hwait, beq_self_eq_true, Bool.and_self, if_true]
          exact ⟨hcheck.checked, hcheck.unknown, hcheck.mismatches⟩
        · have hnone : c.waiting = none := by
            rw [waiting, if_neg]
            simpa using hwait
          rw [hnone]
          split_ifs with hvalid hop
          · exact absurd ⟨hvalid, hop⟩ hwait
          · exact .nil_of_eq rfl rfl rfl
          · exact .nil_of_eq rfl rfl rfl
    have hsame : (c.handleTxn s).totalChecked = (c.takeResponse s.txn).totalChecked ∧
        (c.handleTxn s).totalUnknown = (c.takeResponse s.txn).totalUnknown ∧
        (c.handleTxn s).totalMismatches = (c.takeResponse s.txn).totalMismatches := by
      rw [handleTxn, takeRequest]
      split_ifs <;> exact ⟨rfl, rfl, rfl⟩
    rw [getDtmTxn_of_isDmi hd]
    exact ⟨hsame.1.trans hresp.checked, hsame.2.1.trans hresp.unknown, hsame.2.2.trans hresp.mismatches⟩

/-- A write is not counted. -/
theorem tallies_writes (s : Sample) {c' : DmChecker} {log : List CheckerEvent} (h : c.Tallies c' log) :
    c.Tallies c' (log ++ s.writes) := by
  have hnone : ∀ p : CheckerEvent → Bool, p (.write s.txn.dmiAddr s.txn.dmiWdata s.cmdbusy) = false →
      (log ++ s.writes).countP p = log.countP p := by
    intro p hp
    rw [List.countP_append, Sample.writes]
    split_ifs
    · rw [List.countP_singleton, hp]
      rfl
    · rfl
  constructor
  · rw [h.checked, hnone _ rfl]
  · rw [h.unknown, hnone _ rfl]
  · rw [h.mismatches, hnone _ rfl]

/-- **The counters are what the log has to count.** -/
theorem after_counters (m : DmRefModel) (ss : List Sample) :
    Tallies { model := m } (after m ss) (after m ss).log := by
  induction ss using List.reverseRecOn with
  | nil => exact .nil_of_eq rfl rfl rfl
  | append_singleton ss s ih =>
    rw [after_concat, getDtmTxn_log]
    exact ih.append (tallies_writes s (getDtmTxn_counters s))

/-- **The model is what the log makes of it.** -/
theorem after_model (m : DmRefModel) (ss : List Sample) :
    (after m ss).model = replay m (after m ss).log := by
  induction ss using List.reverseRecOn with
  | nil => rfl
  | append_singleton ss s ih => rw [after_concat, getDtmTxn_model, getDtmTxn_log, ih, ← replay_append]

theorem checks_eq_nil_or (s : Sample) :
    c.checks s = [] ∨ ∃ addr raw status, c.checks s = [.check addr raw status c.model] := by
  rw [checks]
  split_ifs
  · cases c.waiting with
    | none => exact .inl rfl
    | some addr => exact .inr ⟨addr, _, _, rfl⟩
  · exact .inl rfl

/-- A response is compared with what the events before it have made of the first model. -/
theorem before_of_check (m : DmRefModel) (ss : List Sample) {k : Nat} {addr : BitVec 7} {raw : FourState 32}
    {status : FourState 2} {before : DmRefModel} (h : (after m ss).log[k]? = some (.check addr raw status before)) :
    before = replay m ((after m ss).log.take k) := by
  induction ss using List.reverseRecOn generalizing k with
  | nil => cases h
  | append_singleton ss s ih =>
    rw [after_concat, getDtmTxn_log] at h ⊢
    rcases Nat.lt_or_ge k (after m ss).log.length with hlt | hge
    · rw [List.getElem?_append_left hlt] at h
      rw [List.take_append_of_le_length hlt.le]
      exact ih h
    · -- the check of the last record is the first event it adds
      rw [List.getElem?_append_right hge] at h
      have hwrite : ∀ j : Nat, s.writes[j]? ≠ some (.check addr raw status before) := by
        intro j hj
        have hmem := List.mem_of_getElem? hj
        rw [Sample.writes] at hmem
        split_ifs at hmem
        · cases List.mem_singleton.mp hmem
        · cases hmem
      rcases checks_eq_nil_or (c := after m ss) s with hnil | ⟨a, r, st, hone⟩
      · rw [hnil, List.nil_append] at h
        exact absurd h (hwrite _)
      · rw [hone] at h
        cases hk : k - (after m ss).log.length with
        | succ j =>
          rw [hk] at h
          exact absurd h (hwrite j)
        | zero =>
          rw [hk] at h
          cases h
          obtain rfl : k = (after m ss).log.length := by omega
          rw [List.take_left, after_model]

end DmChecker

end RiscvDbg

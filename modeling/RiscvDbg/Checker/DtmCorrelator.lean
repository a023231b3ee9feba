import RiscvDbg.Checker.Correlators
import RiscvDbg.Lib.Runs

/-!
# Whom the DTM correlator accuses

`compare_dtm_dmi` (`sv/env/dm_checker.sv`) takes the first bus access with the address and the op of the
oldest JTAG request for that request, and calls the DTM corrupt if the data of a write differ.  A DTM in sticky
busy drops requests, and the correlator is not told: a dropped request waits on.

* `DtmBench` — the correlator next to the requests the DTM may still perform.
* `Correct` — the DTM performs requests in the order of the shifts, unchanged and not before they are shifted;
  it may leave some out.
* `WritesAgree` — address by address, the waiting writes and the waiting bus writes agree one by one.
* `dtm_never_accused` — **no `DTM_CHECK` error is reported as long as what is queued agrees**, whenever the
  queues are polled.
* `lossless_agrees` — a DTM that drops nothing keeps them in agreement.

A write that was dropped and is followed by a write of other data to the same address breaks the agreement:
`dropped_write_accuses`.
-/

set_option autoImplicit false

namespace RiscvDbg

open Runs

/-- What happens at the checker: a shift is recorded, a bus access is recorded, the queues are polled. -/
inductive DtmInput where
  | shift (txn : JtagTxn) (time : Nat)
  | bus (txn : DmiTxn)
  | poll
  deriving DecidableEq

/-- The correlator, and the requests that the DTM has neither performed nor passed over. -/
structure DtmBench where
  correlator : DtmCorrelator := {}
  owed : List JtagEvt := []
  deriving DecidableEq

/-- The requests a shift makes. -/
def JtagTxn.requests (txn : JtagTxn) (time : Nat) : List JtagEvt :=
  if txn.irVal = JTAG_DMI ∧ (txn.dmiOp = DMI_READ ∨ txn.dmiOp = DMI_WRITE) then
    [⟨txn.dmiAddr, txn.dmiOp, txn.dmiWdata, time⟩]
  else []

/-- The bus access is the request. -/
def JtagEvt.performs (r : JtagEvt) (b : DmiTxn) : Bool :=
  b.addr == r.addr && b.op == r.op && b.wdata == r.data && r.t ≤ b.tReq

namespace DtmBench

def step (s : DtmBench) : DtmInput → DtmBench
  | .shift txn time =>
    { correlator := s.correlator.getDtmTxn txn time, owed := s.owed ++ txn.requests time }
  | .bus b =>
    -- the requests before the one that is performed have been dropped
    { correlator := s.correlator.getDmiBusTxn b, owed := (s.owed.dropWhile (!·.performs b)).tail }
  | .poll => { s with correlator := s.correlator.compareDtmDmi }

/-- A correct DTM: what appears on the bus is a request it still may perform. -/
def Correct (s : DtmBench) : DtmInput → Prop
  | .bus b => s.owed.any (·.performs b) = true
  | _ => True

instance (s : DtmBench) : (i : DtmInput) → Decidable (s.Correct i)
  | .shift _ _ => inferInstanceAs (Decidable True)
  | .bus b => inferInstanceAs (Decidable (s.owed.any (·.performs b) = true))
  | .poll => inferInstanceAs (Decidable True)

end DtmBench

/-! ## Agreement of the queues -/

namespace DtmCorrelator

/-- What the matching looks at. -/
def requestKey (r : JtagEvt) : BitVec 7 × BitVec 2 := (r.addr, r.op)

def busKey (b : DmiTxn) : BitVec 7 × BitVec 2 := (b.addr, b.op)

/-- The bus write carries the data of the request, and was not made before it. -/
def Agree (r : JtagEvt) (b : DmiTxn) : Prop := r.t ≤ b.tReq ∧ b.wdata = r.data

instance (r : JtagEvt) (b : DmiTxn) : Decidable (Agree r b) :=
  inferInstanceAs (Decidable (r.t ≤ b.tReq ∧ b.wdata = r.data))

/-- Address by address, the waiting writes and the waiting bus writes agree one by one. -/
def WritesAgree (c : DtmCorrelator) : Prop :=
  Matching.Paired requestKey busKey (fun k => k.2 = DMI_WRITE) Agree c.jtagQ c.busQ

instance (c : DtmCorrelator) : Decidable c.WritesAgree :=
  inferInstanceAs (Decidable (Matching.Paired requestKey busKey (fun k => k.2 = DMI_WRITE) Agree _ _))

theorem accepts_iff (r : JtagEvt) (b : DmiTxn) :
    accepts r b = true ↔ requestKey r = busKey b ∧ r.t ≤ b.tReq := by
  simp only [accepts, requestKey, busKey, Bool.and_eq_true, decide_eq_true_eq, beq_iff_eq, Prod.mk.injEq]
  constructor
  · rintro ⟨ht, ha, ho⟩
    exact ⟨⟨ha.symm, ho.symm⟩, ht⟩
  · rintro ⟨⟨ha, ho⟩, ht⟩
    exact ⟨ht, ha.symm, ho.symm⟩

/-- A poll of queues that agree accuses no one, and they still agree afterwards. -/
theorem compareDtmDmi_of_writesAgree {c : DtmCorrelator} (h : c.WritesAgree) :
    c.compareDtmDmi.dtmMismatched = c.dtmMismatched ∧ c.compareDtmDmi.WritesAgree := by
  obtain ⟨hpairs, hleft⟩ := Matching.drain_paired
    (fun r b hrb => ((accepts_iff r b).mp hrb).1)
    (fun r b hk hrb => (accepts_iff r b).mpr ⟨hk, hrb.1⟩) c.jtagQ c.busQ h
  refine ⟨?_, hleft⟩
  have hnone : (Matching.drain accepts c.jtagQ c.busQ).2.2.countP corrupted = 0 := by
    rw [List.countP_eq_zero]
    intro p hp hcorrupted
    simp only [corrupted, Bool.and_eq_true, beq_iff_eq, bne_iff_ne] at hcorrupted
    exact hcorrupted.2 (hpairs p hp hcorrupted.1).2
  simp only [compareDtmDmi, hnone, Nat.add_zero]

@[simp] theorem getDtmTxn_dtmMismatched (c : DtmCorrelator) (txn : JtagTxn) (time : Nat) :
    (c.getDtmTxn txn time).dtmMismatched = c.dtmMismatched := by
  unfold getDtmTxn
  split <;> rfl

end DtmCorrelator

/-! ## The runs without an error -/

namespace DtmBench

/-- What is queued leaves the queues in agreement. -/
def KeepsAgreement (s : DtmBench) : DtmInput → Prop
  | .shift txn time => (s.correlator.getDtmTxn txn time).WritesAgree
  | .bus b => (s.correlator.getDmiBusTxn b).WritesAgree
  | .poll => True

instance (s : DtmBench) : (i : DtmInput) → Decidable (s.KeepsAgreement i)
  | .shift txn time => inferInstanceAs (Decidable (s.correlator.getDtmTxn txn time).WritesAgree)
  | .bus b => inferInstanceAs (Decidable (s.correlator.getDmiBusTxn b).WritesAgree)
  | .poll => inferInstanceAs (Decidable True)

/-- Nobody has been accused and the queues agree. -/
structure Clean (s : DtmBench) : Prop where
  agree : s.correlator.WritesAgree
  unaccused : s.correlator.dtmMismatched = 0

theorem Clean.step {s : DtmBench} (h : s.Clean) {i : DtmInput} (hi : s.KeepsAgreement i) : (s.step i).Clean := by
  cases i with
  | shift txn time => exact ⟨hi, (s.correlator.getDtmTxn_dtmMismatched txn time).trans h.unaccused⟩
  | bus b => exact ⟨hi, h.unaccused⟩
  | poll =>
    obtain ⟨hcount, hagree⟩ := DtmCorrelator.compareDtmDmi_of_writesAgree h.agree
    exact ⟨hagree, hcount.trans h.unaccused⟩

theorem clean_init : Clean {} where
  agree := by
    intro k _ p hp
    cases hp
  unaccused := rfl

/-- **No error is reported** while every request and every bus access that is queued leaves the queues in
agreement, at whatever moments they are polled. -/
theorem dtm_never_accused (is : List DtmInput) (h : Always step KeepsAgreement {} is) :
    (run step {} is).correlator.dtmMismatched = 0 := by
  have hclean : (run step {} is).Clean := run_invariant (fun _ _ hs hi => hs.step hi) is _ clean_init h
  exact hclean.unaccused

/-- The shift of a write of `data` to `addr`. -/
def writeShift (addr : BitVec 7) (data : BitVec 32) : JtagTxn where
  irVal := JTAG_DMI
  dmiAddr := addr
  dmiOp := DMI_WRITE
  dmiWdata := data

/-- A write is dropped and repeated with the same data. -/
theorem dtm_never_accused_retry :
    (run step {} [.shift (writeShift 0x10 1) 0, .poll, .shift (writeShift 0x10 1) 10,
      .bus ⟨0x10, DMI_WRITE, 1, 0, 0, true, 11, 12⟩, .poll]).correlator.dtmMismatched = 0 :=
  dtm_never_accused _ (by decide)

/-- A write of 1 is dropped, and the next write to that address carries 2. -/
def droppedWrite : List DtmInput :=
  [.shift (writeShift 0x10 1) 0, .shift (writeShift 0x10 2) 10, .bus ⟨0x10, DMI_WRITE, 2, 0, 0, true, 11, 12⟩, .poll]

/-- The correlator takes the second write for the first and accuses a correct DTM. -/
theorem dropped_write_accuses :
    Always step Correct {} droppedWrite ∧ (run step {} droppedWrite).correlator.dtmMismatched = 1 := by
  decide

/-! ## A DTM that drops nothing -/

/-- The DTM performs the oldest request it owes, and no queue is full. -/
def Lossless (s : DtmBench) : DtmInput → Prop
  | .shift _ _ => s.correlator.jtagQ.length < CORR_DEPTH
  | .bus b => s.correlator.busQ.length < CORR_DEPTH ∧ ∃ r ∈ s.owed.head?, r.performs b = true
  | .poll => True

/-- The waiting requests are those whose access has been seen, in the order of the bus, and then those that
the DTM owes. -/
def InOrder (s : DtmBench) : Prop :=
  ∃ rs, s.correlator.jtagQ = rs ++ s.owed ∧ List.Forall₂ (fun r b => r.performs b = true) rs s.correlator.busQ

theorem performs_agree {r : JtagEvt} {b : DmiTxn} (h : r.performs b = true) :
    DtmCorrelator.requestKey r = DtmCorrelator.busKey b ∧ DtmCorrelator.Agree r b := by
  simp only [JtagEvt.performs, Bool.and_eq_true, beq_iff_eq, decide_eq_true_eq] at h
  obtain ⟨⟨⟨haddr, hop⟩, hdata⟩, ht⟩ := h
  exact ⟨Prod.ext haddr.symm hop.symm, ht, hdata⟩

theorem performs_accepts {r : JtagEvt} {b : DmiTxn} (h : r.performs b = true) :
    DtmCorrelator.accepts r b = true :=
  (DtmCorrelator.accepts_iff r b).mpr ⟨(performs_agree h).1, (performs_agree h).2.1⟩

theorem InOrder.writesAgree {s : DtmBench} (h : s.InOrder) : s.correlator.WritesAgree := by
  obtain ⟨rs, hq, hrs⟩ := h
  rw [DtmCorrelator.WritesAgree, hq]
  exact Matching.paired_of_forall₂ (fun _ _ hrb => performs_agree hrb) hrs s.owed

theorem InOrder.step {s : DtmBench} (h : s.InOrder) {i : DtmInput} (hi : s.Lossless i) : (s.step i).InOrder := by
  obtain ⟨rs, hq, hrs⟩ := h
  cases i with
  | shift txn time =>
    refine ⟨rs, ?_, ?_⟩
    · simp only [DtmBench.step, DtmCorrelator.getDtmTxn, JtagTxn.requests]
      split
      · rw [Matching.push_of_lt hi, hq, List.append_assoc]
      · rw [hq, List.append_nil]
    · simp only [DtmBench.step, DtmCorrelator.getDtmTxn]
      split <;> exact hrs
  | bus b =>
    obtain ⟨hroom, r, hr, hrb⟩ := hi
    obtain ⟨rest, howed⟩ := List.head?_eq_some_iff.mp hr
    refine ⟨rs ++ [r], ?_, ?_⟩
    · simp [DtmBench.step, DtmCorrelator.getDmiBusTxn, hq, howed, hrb]
    · simp only [DtmBench.step, DtmCorrelator.getDmiBusTxn, Matching.push_of_lt hroom]
      exact List.rel_append hrs (List.Forall₂.cons hrb .nil)
  | poll =>
    -- everything seen on the bus is matched, and only what is owed is left
    have hlen : s.correlator.busQ.length ≤ s.correlator.jtagQ.length := by
      rw [hq, List.length_append, hrs.length_eq]
      omega
    have haccepts : ∀ p ∈ s.correlator.jtagQ.zip s.correlator.busQ, DtmCorrelator.accepts p.1 p.2 = true := by
      intro p hp
      rw [hq] at hp
      exact performs_accepts (Matching.forall_zip_of_forall₂ hrs s.owed p hp)
    have hdrain := Matching.drain_in_order (q := fun _ => true) s.correlator.jtagQ s.correlator.busQ
      s.correlator.busQ (fun _ _ _ _ => rfl) (by simp) hlen haccepts
    refine ⟨[], ?_, ?_⟩
    · simp only [DtmBench.step, DtmCorrelator.compareDtmDmi, hdrain]
      rw [hq, ← hrs.length_eq, List.drop_left, List.nil_append]
    · simp [DtmBench.step, DtmCorrelator.compareDtmDmi, hdrain]

/-- **A DTM that drops nothing is never accused**: what it puts on the bus keeps the queues in agreement. -/
theorem lossless_agrees (is : List DtmInput) (h : Always step Lossless {} is) :
    Always step KeepsAgreement {} is := by
  refine (always_iff (P := InOrder) (fun _ _ hs hi _ => hs.step hi) ?_ is {} ⟨[], rfl, .nil⟩ h).mpr
    (always_true is _)
  intro s i hs hi
  refine iff_true_intro ?_
  cases i with
  | shift txn time => exact (hs.step hi).writesAgree
  | bus b => exact (hs.step hi).writesAgree
  | poll => exact trivial

end DtmBench

end RiscvDbg

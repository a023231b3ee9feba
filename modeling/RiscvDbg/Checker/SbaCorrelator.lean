import RiscvDbg.Checker.Correlators
import RiscvDbg.Lib.Runs

/-!
# Which bus writes the SBA correlator finds

`dm_checker` keeps a copy of `sbaddress0` beside the one of its reference model.  The copy is set by writes of
`sbaddress0` and by nothing else; the reference model also moves its own after every bus access of an
autoincrementing transfer.  A write of `sbdata0` is recorded at the copy.

* `SystemBusS.stride` — by how much one access moves the address.
* `SbaBench` — checker and correlator, the bus writes the DM owes, and the `drift`: by how much accesses have
  moved the address since `sbaddress0` was last written.
* `Legal` — the traffic: writes of `sbcs`, `sbaddress0` and `sbdata0` and any reads; the DM performs the writes
  it owes in order, where the reference model asks for them, and may read as it likes.
* `Follows` — the address of the model is the copy plus the drift.
* `Sync` — the correlator has recorded what the DM was asked for.
* `sba_correlator_complete` — **every write is recorded at its address exactly if there is no drift when it is
  made, and then every poll pairs each write with its own bus write** and leaves only those the DM still owes.
-/

set_option autoImplicit false

namespace RiscvDbg

open Runs

/-! ## How accesses move the address -/

namespace SystemBusS

variable (cfg : DmCfg) (sb : SystemBusS)

/-- The step of the address after one bus access. -/
def stride : BitVec 32 := if sb.sbautoincrement then 1#32 <<< sb.sbaccess.toNat else 0

theorem low_add (hi lo : BitVec 32) (n : Nat) :
    ((hi ++ lo : BitVec 64) + (1#64 <<< n)).extractLsb' 0 32 = lo + (1#32 <<< n) := by
  apply BitVec.eq_of_toNat_eq
  simp only [BitVec.extractLsb'_toNat, BitVec.toNat_add, BitVec.toNat_append, BitVec.toNat_shiftLeft,
    Nat.shiftRight_zero]
  have hlo := lo.isLt
  have h32 : (1#32).toNat = 1 := rfl
  have h64 : (1#64).toNat = 1 := rfl
  rw [← Nat.shiftLeft_add_eq_or_of_lt hlo, Nat.shiftLeft_eq, h32, h64]
  omega

@[simp] theorem sbaAutoincrement_sbaddress0 :
    (sb.sbaAutoincrement cfg).sbaddress0 = sb.sbaddress0 + sb.stride := by
  unfold sbaAutoincrement stride
  cases sb.sbautoincrement with
  | false => simp
  | true => simp [low_add]

@[simp] theorem sbaArmRead_sbaddress0 (a : BitVec 32) : (sb.sbaArmRead a).sbaddress0 = sb.sbaddress0 := by
  unfold sbaArmRead
  split <;> rfl

@[simp] theorem sbaArmRead_stride (a : BitVec 32) : (sb.sbaArmRead a).stride = sb.stride := by
  unfold sbaArmRead
  split <;> rfl

theorem writeSbaddress0_sbaddress0 (value : BitVec 32) :
    (sb.writeSbaddress0 cfg value).sbaddress0 =
      value + if sb.sbcsReadOnAddrArmed then sb.stride else 0 := by
  unfold writeSbaddress0
  cases sb.sbcsReadOnAddrArmed with
  | false => simp
  | true =>
    simp only [if_true, sbaAutoincrement_sbaddress0, sbaArmRead_sbaddress0, sbaArmRead_stride]
    rfl

theorem writeSbdata0_sbaddress0 (value : BitVec 32) :
    (sb.writeSbdata0 cfg value).sbaddress0 = sb.sbaddress0 + sb.stride := by
  rw [writeSbdata0, sbaAutoincrement_sbaddress0]
  rfl

theorem sbdata0ReadEffects_sbaddress0 :
    (sb.sbdata0ReadEffects cfg).sbaddress0 = sb.sbaddress0 + if sb.sbreadondata then sb.stride else 0 := by
  unfold sbdata0ReadEffects
  cases sb.sbreadondata with
  | false => simp
  | true => simp

end SystemBusS

/-! ## What one record does to the address -/

namespace DmRefModel

theorem onWrite_sbcs (m : DmRefModel) (value : BitVec 32) :
    (m.onWrite DM_ADDR_SBCS value).sb = m.sb.writeSbcs m.cfg value := by
  simp +decide [onWrite]

theorem onWrite_sbaddress0 (m : DmRefModel) (value : BitVec 32) :
    (m.onWrite DM_ADDR_SBADDRESS0 value).sb = m.sb.writeSbaddress0 m.cfg value := by
  simp +decide [onWrite]

theorem onWrite_sbdata0 (m : DmRefModel) (value : BitVec 32) :
    (m.onWrite DM_ADDR_SBDATA0 value).sb = m.sb.writeSbdata0 m.cfg value := by
  simp +decide [onWrite]

/-- By how much an answered read moves the address. -/
def readStride (m : DmRefModel) (addr : BitVec 7) : BitVec 32 :=
  if addr = DM_ADDR_SBDATA0 ∧ m.sb.sbreadondata = true then m.sb.stride else 0

theorem observeRead_sbaddress0 (m : DmRefModel) (addr : BitVec 7) :
    (m.observeRead addr).sb.sbaddress0 = m.sb.sbaddress0 + m.readStride addr := by
  unfold observeRead readStride
  by_cases haddr : addr = DM_ADDR_SBDATA0
  · simp [haddr, SystemBusS.sbdata0ReadEffects_sbaddress0]
  · simp [haddr]

end DmRefModel

namespace DmChecker

/-- By how much the response half of a record moves the address of the model. -/
def responseStride (c : DmChecker) (txn : JtagTxn) : BitVec 32 :=
  match c.waiting with
  | some addr =>
    if txn.dmiStatus.ne DMI_STAT_BUSY = true ∧ txn.dmiStatus.caseEq DMI_STAT_FAILED = false then c.model.readStride addr
    else 0
  | none => 0

theorem takeResponse_sbaddress0 (c : DmChecker) (txn : JtagTxn) :
    (c.takeResponse txn).model.sb.sbaddress0 = c.model.sb.sbaddress0 + c.responseStride txn := by
  unfold responseStride
  cases hb : txn.dmiStatus.ne DMI_STAT_BUSY with
  | false =>
    rw [takeResponse_of_busy hb]
    cases c.waiting <;> simp
  | true =>
    rw [(takeResponse_of_ne hb).2.2]
    cases c.waiting with
    | none => simp [replay]
    | some addr =>
      simp only [Option.toList_some, List.map_cons, List.map_nil, replay, List.foldl_cons, List.foldl_nil,
        CheckerEvent.apply]
      cases txn.dmiStatus.caseEq DMI_STAT_FAILED with
      | true => simp
      | false =>
        simp only [Bool.false_eq_true, if_false, DmRefModel.observeRead_sbaddress0, and_self, if_true]
        split <;> rfl

theorem handleTxn_model_of_write {c : DmChecker} {s : Sample} (h : s.txn.dmiOp = DMI_WRITE) :
    (c.handleTxn s).model =
      (sampleBusy (c.takeResponse s.txn).model s.cmdbusy).onWrite s.txn.dmiAddr s.txn.dmiWdata := by
  simp only [handleTxn, takeRequest, if_pos h]

theorem handleTxn_model_of_not_write {c : DmChecker} {s : Sample} (h : ¬ s.txn.dmiOp = DMI_WRITE) :
    (c.handleTxn s).model = (c.takeResponse s.txn).model := by
  simp only [handleTxn, takeRequest, if_neg h]
  split <;> rfl

@[simp] theorem sampleBusy_sb (m : DmRefModel) (busy : Option Bool) : (sampleBusy m busy).sb = m.sb := by
  cases busy <;> rfl

end DmChecker

/-! ## Checker, correlator and DM -/

variable {addrW dataW idW : Nat}

/-- What happens at the checker: a shift is recorded, a bus transaction is recorded, the queues are polled. -/
inductive SbaInput (addrW dataW idW : Nat) where
  | shift (s : Sample) (time : Nat)
  | bus (txn : AxiTxn addrW dataW idW) (time : Nat)
  | poll

/-- The checker with its correlator; besides them, the bus writes asked for so far, those the DM owes and those
it has performed, the number of bus transactions since the last poll, and the drift. -/
structure SbaBench where
  checker : DmChecker
  correlator : SbaCorrelator := {}
  requests : List SbaEvt := []
  owed : List SbaEvt := []
  performed : List SbaEvt := []
  unseen : Nat := 0
  drift : BitVec 32 := 0

namespace SbaBench

/-- The shift writes `sbdata0`. -/
def asksForWrite (s : Sample) : Bool := s.isWrite && s.txn.dmiAddr == DM_ADDR_SBDATA0

/-- The system bus registers of the model when the request half of a shift is applied. -/
def applied (b : SbaBench) (s : Sample) : SystemBusS := (b.checker.takeResponse s.txn).model.sb

/-- The bus write a write of `sbdata0` asks for: at the address of the model when it is applied. -/
def asked (b : SbaBench) (s : Sample) (time : Nat) : SbaEvt :=
  ⟨(b.applied s).sbaddress0.setWidth 64, s.txn.dmiWdata.setWidth 64, true, time⟩

/-- The drift when the request half of a shift is applied. -/
def driftThen (b : SbaBench) (s : Sample) : BitVec 32 := b.drift + b.checker.responseStride s.txn

/-- The drift after a shift. -/
def driftAfter (b : SbaBench) (s : Sample) : BitVec 32 :=
  if s.isWrite && s.txn.dmiAddr == DM_ADDR_SBADDRESS0 then
    if (b.applied s).sbcsReadOnAddrArmed then (b.applied s).stride else 0
  else if asksForWrite s then b.driftThen s + (b.applied s).stride
  else if s.isDmi then b.driftThen s
  else b.drift

def step (b : SbaBench) : SbaInput addrW dataW idW → SbaBench
  | .shift s time =>
    { b with
      checker := b.checker.getDtmTxn s
      correlator := if s.isDmi then b.correlator.recordDmiSba s.txn time else b.correlator
      requests := if asksForWrite s then b.requests ++ [b.asked s time] else b.requests
      owed := if asksForWrite s then b.owed ++ [b.asked s time] else b.owed
      drift := b.driftAfter s }
  | .bus txn time =>
    { b with
      correlator := b.correlator.getAxiTxn txn time
      owed := if txn.dir = .write then b.owed.tail else b.owed
      performed := if txn.dir = .write then b.performed ++ [SbaCorrelator.axiEvt txn time] else b.performed
      unseen := b.unseen + 1 }
  | .poll => { b with correlator := b.correlator.compareDmiSba, unseen := 0 }

/-- The traffic: of the registers, only `sbcs`, `sbaddress0` and `sbdata0` are written, with room for the
request; a bus write is the oldest one owed, not before it was asked for. -/
def Legal (b : SbaBench) : SbaInput addrW dataW idW → Prop
  | .shift s _ =>
    (s.isWrite = true → s.txn.dmiAddr = DM_ADDR_SBCS ∨ s.txn.dmiAddr = DM_ADDR_SBADDRESS0 ∨
      s.txn.dmiAddr = DM_ADDR_SBDATA0) ∧
    (asksForWrite s = true → b.correlator.dmiSbaQ.length < CORR_DEPTH)
  | .bus txn time =>
    txn.dir = .write → ∃ r ∈ b.owed.head?, txn.addr.setWidth 64 = r.addr ∧ r.t ≤ time
  | .poll => True

/-- A write of `sbdata0` is recorded at the address where the model applies it. -/
def Recorded (b : SbaBench) : SbaInput addrW dataW idW → Prop
  | .shift s time => asksForWrite s = true → (b.correlator.request s.txn time).addr = (b.asked s time).addr
  | _ => True

/-- No drift when a write of `sbdata0` is applied. -/
def Undrifted (b : SbaBench) : SbaInput addrW dataW idW → Prop
  | .shift s _ => asksForWrite s = true → b.driftThen s = 0
  | _ => True

/-- At most `CORR_DEPTH` bus transactions come between two polls. -/
def Polled (b : SbaBench) : SbaInput addrW dataW idW → Prop
  | .bus _ _ => b.unseen < CORR_DEPTH
  | _ => True

instance (b : SbaBench) : (i : SbaInput addrW dataW idW) → Decidable (b.Recorded i)
  | .shift s time =>
    inferInstanceAs (Decidable (asksForWrite s = true →
      (b.correlator.request s.txn time).addr = (b.asked s time).addr))
  | .bus _ _ => inferInstanceAs (Decidable True)
  | .poll => inferInstanceAs (Decidable True)

instance (b : SbaBench) : (i : SbaInput addrW dataW idW) → Decidable (b.Undrifted i)
  | .shift s _ => inferInstanceAs (Decidable (asksForWrite s = true → b.driftThen s = 0))
  | .bus _ _ => inferInstanceAs (Decidable True)
  | .poll => inferInstanceAs (Decidable True)

instance (b : SbaBench) : (i : SbaInput addrW dataW idW) → Decidable (b.Polled i)
  | .bus _ _ => inferInstanceAs (Decidable (b.unseen < CORR_DEPTH))
  | .shift _ _ => inferInstanceAs (Decidable True)
  | .poll => inferInstanceAs (Decidable True)

/-- The checker at the start, on a model whose `sbaddress0` is 0. -/
def start (m : DmRefModel) : SbaBench where
  checker := { model := m }

/-! ## The copy and the drift -/

/-- The address of the model is the copy, moved by the drift. -/
def Follows (b : SbaBench) : Prop := b.checker.model.sb.sbaddress0 = b.correlator.sbaddress0 + b.drift

theorem Follows.applied {b : SbaBench} (h : b.Follows) (s : Sample) :
    (b.applied s).sbaddress0 = b.correlator.sbaddress0 + b.driftThen s := by
  rw [SbaBench.applied, DmChecker.takeResponse_sbaddress0, h, driftThen, BitVec.add_assoc]

theorem Follows.step {b : SbaBench} (h : b.Follows) {i : SbaInput addrW dataW idW} (hi : b.Legal i) :
    (b.step i).Follows := by
  cases i with
  | bus txn time => exact h
  | poll => exact h
  | shift s time =>
    cases hd : s.isDmi with
    | false =>
      have hmodel : (b.checker.getDtmTxn s).model = b.checker.model := by
        rw [DmChecker.getDtmTxn_of_not_isDmi hd]
        split <;> rfl
      have hdrift : b.driftAfter s = b.drift := by
        simp [driftAfter, asksForWrite, Sample.isWrite, hd]
      simpa only [Follows, SbaBench.step, hmodel, hdrift, hd, Bool.false_eq_true, if_false] using h
    | true =>
      have happlied := h.applied s
      by_cases hop : s.txn.dmiOp = DMI_WRITE
      · have hw : s.isWrite = true := by simp [Sample.isWrite, hd, hop]
        simp only [Follows, SbaBench.step, DmChecker.getDtmTxn_of_isDmi hd, hd, if_true,
          DmChecker.handleTxn_model_of_write hop, driftAfter, asksForWrite, hw, Bool.true_and]
        -- one case for each of the registers that may be written
        obtain haddr | haddr | haddr := hi.1 hw
        · simp +decide only [haddr, DmRefModel.onWrite_sbcs, SystemBusS.writeSbcs, SbaCorrelator.recordDmiSba, hop,
            DmChecker.sampleBusy_sb, if_false]
          exact happlied
        · simp +decide only [haddr, DmRefModel.onWrite_sbaddress0, SystemBusS.writeSbaddress0_sbaddress0,
            SbaCorrelator.recordDmiSba, hop, DmChecker.sampleBusy_sb, if_true, if_false]
          rfl
        · simp +decide only [haddr, DmRefModel.onWrite_sbdata0, SystemBusS.writeSbdata0_sbaddress0,
            SbaCorrelator.recordDmiSba, hop, DmChecker.sampleBusy_sb, if_true, if_false]
          rw [← BitVec.add_assoc, ← happlied]
          rfl
      · have hw : s.isWrite = false := by simp [Sample.isWrite, hop]
        simp only [Follows, SbaBench.step, DmChecker.getDtmTxn_of_isDmi hd, hd, if_true,
          DmChecker.handleTxn_model_of_not_write hop, driftAfter, asksForWrite, hw, Bool.false_and,
          Bool.false_eq_true, if_false, SbaCorrelator.recordDmiSba, ne_eq, hop, not_false_eq_true]
        exact happlied

/-- The recorded address is right exactly if there is no drift. -/
theorem Follows.recorded_iff {b : SbaBench} (h : b.Follows) (i : SbaInput addrW dataW idW) :
    b.Recorded i ↔ b.Undrifted i := by
  cases i with
  | bus txn time => exact Iff.rfl
  | poll => exact Iff.rfl
  | shift s time =>
    refine imp_congr_right ?_
    intro _
    simp only [asked, SbaCorrelator.request, h.applied s]
    constructor
    · intro heq
      have hlow := congrArg (BitVec.setWidth 32) heq
      simpa using hlow
    · intro hdrift
      simp [hdrift]

/-! ## The books of the correlator -/

/-- The correlator has recorded what the DM was asked for, and not lost what it has performed. -/
structure Sync (b : SbaBench) : Prop where
  requests : b.requests = b.correlator.pairs.map Prod.fst ++ b.correlator.dmiSbaQ
  performed : b.performed = b.correlator.pairs.map Prod.snd ++ b.correlator.axiSbaQ.filter (·.isWrite)
  writes : ∀ e ∈ b.correlator.dmiSbaQ, e.isWrite = true
  /-- The requests that wait are those performed since the last poll, in order, and those owed. -/
  waiting : ∃ answered, b.correlator.dmiSbaQ = answered ++ b.owed ∧
    List.Forall₂ (fun r e => SbaCorrelator.accepts r e = true) answered
      (b.correlator.axiSbaQ.filter (·.isWrite))
  /-- Only reads have been on the bus before the last poll. -/
  recent : ∃ old new, b.correlator.axiSbaQ = old ++ new ∧ (∀ e ∈ old, e.isWrite = false) ∧ new.length = b.unseen

theorem start_sync (m : DmRefModel) : (start m).Sync where
  requests := rfl
  performed := rfl
  writes := by
    intro e he
    cases he
  waiting := ⟨[], rfl, .nil⟩
  recent := ⟨[], [], rfl, (fun e he => by cases he), rfl⟩

/-- A shift that does not write `sbdata0` leaves the queues alone. -/
theorem recordDmiSba_of_not_asks {s : Sample} (hd : s.isDmi = true) (h : asksForWrite s = false)
    (c : SbaCorrelator) (time : Nat) :
    (c.recordDmiSba s.txn time).dmiSbaQ = c.dmiSbaQ ∧ (c.recordDmiSba s.txn time).axiSbaQ = c.axiSbaQ ∧
      (c.recordDmiSba s.txn time).pairs = c.pairs := by
  unfold SbaCorrelator.recordDmiSba
  split
  · exact ⟨rfl, rfl, rfl⟩
  · rename_i hop
    split
    · exact ⟨rfl, rfl, rfl⟩
    · split
      · rename_i haddr
        simp [asksForWrite, Sample.isWrite, hd, haddr, not_not.mp hop] at h
      · exact ⟨rfl, rfl, rfl⟩

/-- A shift that writes `sbdata0` adds its request. -/
theorem recordDmiSba_of_asks {s : Sample} (h : asksForWrite s = true) (c : SbaCorrelator) (time : Nat) :
    c.recordDmiSba s.txn time =
      { c with dmiSbaQ := Matching.push CORR_DEPTH c.dmiSbaQ (c.request s.txn time) } := by
  simp only [asksForWrite, Sample.isWrite, Bool.and_eq_true, beq_iff_eq] at h
  obtain ⟨⟨-, hop⟩, haddr⟩ := h
  simp +decide [SbaCorrelator.recordDmiSba, hop, haddr]

theorem Sync.shift {b : SbaBench} (h : b.Sync) (hf : b.Follows) {s : Sample} {time : Nat}
    (hroom : asksForWrite s = true → b.correlator.dmiSbaQ.length < CORR_DEPTH)
    (hdrift : asksForWrite s = true → b.driftThen s = 0) :
    (b.step (.shift s time : SbaInput addrW dataW idW)).Sync := by
  obtain ⟨answered, hq, hanswered⟩ := h.waiting
  cases hasks : asksForWrite s with
  | true =>
    have hd : s.isDmi = true := by
      simp only [asksForWrite, Sample.isWrite, Bool.and_eq_true] at hasks
      exact hasks.1.1
    have hasked : b.correlator.request s.txn time = b.asked s time := by
      simp [SbaCorrelator.request, asked, hf.applied s, hdrift hasks]
    have hstep : (b.step (.shift s time : SbaInput addrW dataW idW)).correlator =
        { b.correlator with dmiSbaQ := b.correlator.dmiSbaQ ++ [b.asked s time] } := by
      simp only [step, hd, if_true, recordDmiSba_of_asks hasks, Matching.push_of_lt (hroom hasks), hasked]
    have hrequests : (b.step (.shift s time : SbaInput addrW dataW idW)).requests =
        b.requests ++ [b.asked s time] := if_pos hasks
    have howed : (b.step (.shift s time : SbaInput addrW dataW idW)).owed = b.owed ++ [b.asked s time] := if_pos hasks
    refine ⟨?_, ?_, ?_, ⟨answered, ?_, ?_⟩, ?_⟩
    · rw [hrequests, hstep, h.requests, List.append_assoc]
    · rw [hstep]
      exact h.performed
    · rw [hstep, List.forall_mem_append]
      exact ⟨h.writes, by simp [asked]⟩
    · rw [howed, hstep, ← List.append_assoc, ← hq]
    · rw [hstep]
      exact hanswered
    · rw [hstep]
      exact h.recent
  | false =>
    have hstep : (b.step (.shift s time : SbaInput addrW dataW idW)).correlator.dmiSbaQ = b.correlator.dmiSbaQ ∧
        (b.step (.shift s time : SbaInput addrW dataW idW)).correlator.axiSbaQ = b.correlator.axiSbaQ ∧
        (b.step (.shift s time : SbaInput addrW dataW idW)).correlator.pairs = b.correlator.pairs := by
      simp only [step]
      split
      · rename_i hd
        exact recordDmiSba_of_not_asks hd hasks b.correlator time
      · exact ⟨rfl, rfl, rfl⟩
    obtain ⟨h₁, h₂, h₃⟩ := hstep
    have hrequests : (b.step (.shift s time : SbaInput addrW dataW idW)).requests = b.requests :=
      if_neg (by simp [hasks])
    have howed : (b.step (.shift s time : SbaInput addrW dataW idW)).owed = b.owed := if_neg (by simp [hasks])
    refine ⟨?_, ?_, ?_, ⟨answered, ?_, ?_⟩, ?_⟩
    · rw [hrequests, h₁, h₃, h.requests]
    · rw [h₂, h₃]
      exact h.performed
    · rw [h₁]
      exact h.writes
    · rw [howed, h₁, hq]
    · rw [h₂]
      exact hanswered
    · rw [h₂]
      exact h.recent

theorem Sync.bus {b : SbaBench} (h : b.Sync) {txn : AxiTxn addrW dataW idW} {time : Nat}
    (hi : b.Legal (.bus txn time)) (hroom : b.unseen < CORR_DEPTH) : (b.step (.bus txn time)).Sync := by
  obtain ⟨answered, hq, hanswered⟩ := h.waiting
  obtain ⟨old, new, haxi, hold, hnew⟩ := h.recent
  obtain ⟨old', hmem, hpush⟩ := Matching.push_recent old (hnew ▸ hroom) (SbaCorrelator.axiEvt txn time)
  have hold' : ∀ e ∈ old', e.isWrite = false := fun e he => hold e (hmem e he)
  have hq' : (b.step (.bus txn time)).correlator.axiSbaQ = old' ++ (new ++ [SbaCorrelator.axiEvt txn time]) := by
    rw [← hpush, ← haxi]
    rfl
  -- the bus writes that wait: those before, and this one if it is a write
  have hfilter : (b.step (.bus txn time)).correlator.axiSbaQ.filter (·.isWrite) =
      b.correlator.axiSbaQ.filter (·.isWrite) ++ [SbaCorrelator.axiEvt txn time].filter (·.isWrite) := by
    have hnil : ∀ l : List SbaEvt, (∀ e ∈ l, e.isWrite = false) → l.filter (·.isWrite) = [] := by
      intro l hl
      rw [List.filter_eq_nil_iff]
      intro e he
      simp [hl e he]
    rw [hq', haxi, List.filter_append, List.filter_append, List.filter_append, hnil old hold, hnil old' hold']
    rfl
  have hrecent : (new ++ [SbaCorrelator.axiEvt txn time]).length = b.unseen + 1 := by
    rw [List.length_append, hnew]
    rfl
  cases hdir : txn.dir with
  | read =>
    have hevt : [SbaCorrelator.axiEvt txn time].filter (·.isWrite) = [] := by
      simp [SbaCorrelator.axiEvt, hdir]
    rw [hevt, List.append_nil] at hfilter
    have hperformed : (b.step (.bus txn time)).performed = b.performed := if_neg (by simp [hdir])
    have howed : (b.step (.bus txn time)).owed = b.owed := if_neg (by simp [hdir])
    refine ⟨h.requests, ?_, h.writes, ⟨answered, ?_, ?_⟩, ⟨old', _, hq', hold', hrecent⟩⟩
    · rw [hperformed, hfilter]
      exact h.performed
    · rw [howed]
      exact hq
    · rw [hfilter]
      exact hanswered
  | write =>
    obtain ⟨r, hr, haddr, ht⟩ := hi hdir
    obtain ⟨rest, howed⟩ := List.head?_eq_some_iff.mp hr
    have hevt : [SbaCorrelator.axiEvt txn time].filter (·.isWrite) = [SbaCorrelator.axiEvt txn time] := by
      simp [SbaCorrelator.axiEvt, hdir]
    rw [hevt] at hfilter
    have hrw : r.isWrite = true := h.writes r (by simp [hq, howed])
    have haccepts : SbaCorrelator.accepts r (SbaCorrelator.axiEvt txn time) = true := by
      simp [SbaCorrelator.accepts, SbaCorrelator.axiEvt, haddr, ht, hdir, hrw]
    have hperformed : (b.step (.bus txn time)).performed = b.performed ++ [SbaCorrelator.axiEvt txn time] :=
      if_pos hdir
    have howed' : (b.step (.bus txn time)).owed = rest := by
      simp [step, hdir, howed]
    refine ⟨h.requests, ?_, h.writes, ⟨answered ++ [r], ?_, ?_⟩, ⟨old', _, hq', hold', hrecent⟩⟩
    · rw [hperformed, hfilter, h.performed, List.append_assoc]
      rfl
    · rw [howed', List.append_assoc, List.singleton_append, ← howed]
      exact hq
    · rw [hfilter]
      exact List.rel_append hanswered (List.Forall₂.cons haccepts .nil)

/-- **A poll settles the books**: what has been performed is paired, and only what is owed waits. -/
theorem Sync.poll {b : SbaBench} (h : b.Sync) :
    (b.step (.poll : SbaInput addrW dataW idW)).Sync ∧
      (b.step (.poll : SbaInput addrW dataW idW)).correlator.dmiSbaQ = b.owed ∧
      (b.step (.poll : SbaInput addrW dataW idW)).correlator.pairs = b.requests.zip b.performed := by
  obtain ⟨answered, hq, hanswered⟩ := h.waiting
  have hkind : ∀ r ∈ b.correlator.dmiSbaQ, ∀ e, SbaCorrelator.accepts r e = true → e.isWrite = true := by
    intro r hr e hre
    simp only [SbaCorrelator.accepts, Bool.and_eq_true, beq_iff_eq] at hre
    exact hre.2.1.trans (h.writes r hr)
  have hlen : (b.correlator.axiSbaQ.filter (·.isWrite)).length ≤ b.correlator.dmiSbaQ.length := by
    rw [hq, List.length_append, hanswered.length_eq]
    omega
  have haccepts : ∀ p ∈ b.correlator.dmiSbaQ.zip (b.correlator.axiSbaQ.filter (·.isWrite)),
      SbaCorrelator.accepts p.1 p.2 = true := by
    rw [hq]
    exact Matching.forall_zip_of_forall₂ hanswered b.owed
  have hdrain := Matching.drain_in_order b.correlator.dmiSbaQ b.correlator.axiSbaQ _ hkind rfl hlen haccepts
  -- the three components of the result
  have hleft : (b.step (.poll : SbaInput addrW dataW idW)).correlator.dmiSbaQ = b.owed := by
    simp only [step, SbaCorrelator.compareDmiSba, hdrain]
    rw [hq, ← hanswered.length_eq, List.drop_left]
  have haxi : (b.step (.poll : SbaInput addrW dataW idW)).correlator.axiSbaQ =
      b.correlator.axiSbaQ.filter (fun e => !e.isWrite) := by
    simp only [step, SbaCorrelator.compareDmiSba, hdrain]
  have hpairs : (b.step (.poll : SbaInput addrW dataW idW)).correlator.pairs =
      b.correlator.pairs ++ b.correlator.dmiSbaQ.zip (b.correlator.axiSbaQ.filter (·.isWrite)) := by
    simp only [step, SbaCorrelator.compareDmiSba, hdrain]
  have hfst : (b.correlator.dmiSbaQ.zip (b.correlator.axiSbaQ.filter (·.isWrite))).map Prod.fst = answered := by
    rw [hq, Matching.zip_append_later hanswered.length_eq, List.map_fst_zip hanswered.length_eq.le]
  have hsnd : (b.correlator.dmiSbaQ.zip (b.correlator.axiSbaQ.filter (·.isWrite))).map Prod.snd =
      b.correlator.axiSbaQ.filter (·.isWrite) := List.map_snd_zip hlen
  have hnone : (b.correlator.axiSbaQ.filter (fun e => !e.isWrite)).filter (·.isWrite) = [] := by
    rw [List.filter_eq_nil_iff]
    intro e he
    simpa using (List.mem_filter.mp he).2
  have hreads : ∀ e ∈ b.correlator.axiSbaQ.filter (fun e => !e.isWrite), e.isWrite = false := by
    intro e he
    simpa using (List.mem_filter.mp he).2
  refine ⟨⟨?_, ?_, ?_, ⟨[], ?_, ?_⟩, ⟨_, [], ?_, hreads, rfl⟩⟩, hleft, ?_⟩
  · rw [hpairs, hleft, List.map_append, hfst, List.append_assoc, ← hq]
    exact h.requests
  · rw [hpairs, haxi, hnone, List.map_append, hsnd, List.append_nil]
    exact h.performed
  · rw [hleft]
    intro e he
    exact h.writes e (hq ▸ List.mem_append_right answered he)
  · exact hleft
  · rw [haxi, hnone]
    exact .nil
  · rw [haxi, List.append_nil]
  · rw [hpairs, h.requests, h.performed, List.zip_append (by simp), List.zip_map']
    simp

/-! ## Every write finds its own -/

theorem Sync.step {b : SbaBench} (h : b.Sync) (hf : b.Follows) {i : SbaInput addrW dataW idW} (hi : b.Legal i)
    (hdrift : b.Undrifted i) (hpolled : b.Polled i) : (b.step i).Sync := by
  cases i with
  | shift s time => exact h.shift hf hi.2 hdrift
  | bus txn time => exact h.bus hi hpolled
  | poll => exact h.poll.1

/-- **Every write of `sbdata0` is recorded at the address where it is applied exactly if there is no drift at
any of them; then every poll pairs the writes with their own bus writes**, one by one, as far as the DM has
performed them, and the others are all that waits. -/
theorem sba_correlator_complete (m : DmRefModel) (hm : m.sb.sbaddress0 = 0) (is : List (SbaInput addrW dataW idW))
    (hlegal : Always step Legal (start m) is) :
    (Always step Recorded (start m) is ↔ Always step Undrifted (start m) is) ∧
      (Always step Undrifted (start m) is → Always step Polled (start m) is →
        ∀ js, js <+: is → ∀ b, b = (run step (start m) js).step (.poll : SbaInput addrW dataW idW) →
          b.correlator.dmiSbaQ = b.owed ∧ b.correlator.pairs = b.requests.zip b.performed) := by
  have hstart : (start m).Follows := by
    simp [Follows, start, hm]
  refine ⟨?_, ?_⟩
  · exact always_iff (P := Follows) (fun b i hb hi _ => hb.step hi) (fun b i hb _ => hb.recorded_iff i) is _ hstart
      hlegal
  · rintro hdrift hpolled js ⟨rest, rfl⟩ b rfl
    have hall : Always step (fun b i => (b.Legal i ∧ b.Undrifted i) ∧ b.Polled i) (start m) js :=
      Always.and (Always.and ((always_append js rest _).mp hlegal).1 ((always_append js rest _).mp hdrift).1)
        ((always_append js rest _).mp hpolled).1
    have hsync : (run step (start m) js).Follows ∧ (run step (start m) js).Sync :=
      run_invariant (P := fun b => b.Follows ∧ b.Sync)
        (fun b i hb hi => ⟨hb.1.step hi.1.1, hb.2.step hb.1 hi.1.1 hi.1.2 hi.2⟩) js _ ⟨hstart, start_sync m⟩ hall
    exact hsync.2.poll.2

/-- The shift of a write of `data` to `addr`. -/
def writeSample (addr : BitVec 7) (data : BitVec 32) : Sample where
  txn := { irVal := JTAG_DMI, dmiAddr := addr, dmiOp := DMI_WRITE, dmiWdata := data, dmiStatus := .ofBits 0 }
  cmdbusy := none

/-- The bus write of a word at `addr`. -/
def busWrite (addr : BitVec 64) (word : BitVec 64) : AxiTxn 64 64 4 where
  dir := .write
  addr := addr
  len := 0
  size := 2
  burst := 1
  id := 0
  data := [word]
  tStart := 0

/-- One word is written to 0x100, without autoincrement. -/
def singleWrite : List (SbaInput 64 64 4) :=
  [.shift (writeSample DM_ADDR_SBADDRESS0 0x100) 10, .shift (writeSample DM_ADDR_SBDATA0 5) 20,
    .bus (busWrite 0x100 5) 30]

/-- Two words are written from 0 on, with autoincrement. -/
def burstWrite : List (SbaInput 64 64 4) :=
  [.shift (writeSample DM_ADDR_SBCS 0x50000) 10, .shift (writeSample DM_ADDR_SBDATA0 5) 20,
    .bus (busWrite 0 5) 30, .shift (writeSample DM_ADDR_SBDATA0 6) 40, .bus (busWrite 4 6) 50]

/-- The word is recorded at its address, and paired with its bus write at the next poll. -/
theorem single_write_complete :
    (Always step Recorded (start (.declared {})) singleWrite ↔ Always step Undrifted (start (.declared {})) singleWrite) ∧
      ∀ b, b = (run step (start (.declared {})) singleWrite).step (.poll : SbaInput 64 64 4) →
        b.correlator.dmiSbaQ = b.owed ∧ b.correlator.pairs = b.requests.zip b.performed := by
  have hlegal : Always step Legal (start (.declared {})) singleWrite := by
    simp +decide [singleWrite, Legal, step]
  have hcomplete := sba_correlator_complete (.declared {}) rfl singleWrite hlegal
  exact ⟨hcomplete.1, hcomplete.2 (by decide) (by decide) singleWrite (List.prefix_refl _)⟩

/-- A checker for a DM with writable `sbaccess`. -/
def benchOfWords : SbaBench := start (.declared { sbaccessWritable := true })

/-- The second word is recorded at the address of the first: both bus writes are made, and its request
still waits. -/
theorem burst_write_unmatched :
    Always step Legal benchOfWords burstWrite ∧ Always step Polled benchOfWords burstWrite ∧
      ¬ Always step Recorded benchOfWords burstWrite ∧
      (run step benchOfWords burstWrite).owed = [] ∧
      ((run step benchOfWords burstWrite).step (.poll : SbaInput 64 64 4)).correlator.dmiSbaQ =
        [⟨0, 6, true, 40⟩] := by
  refine ⟨?_, by decide, by decide, by decide, by decide⟩
  simp +decide [burstWrite, Legal, step]

end SbaBench

end RiscvDbg

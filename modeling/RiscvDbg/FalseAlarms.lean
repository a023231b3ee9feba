import Mathlib.Tactic.Tauto
import RiscvDbg.HartRelease
import RiscvDbg.Invariants

/-!
# When the invariant checker contradicts the model

The checker is run on the model itself: before and after every legal access, with the model's own
read-back.  Every rule but two stays silent.

* `Dmi`, `Dmi.apply`, `Dmi.check`, `Dmi.Legal` — one access, what it does to the model, what the
  checker reports for it, and when it is legal stimulus.
* `ResumeAlarm` — exactly when `_inv_resumereq` contradicts the model: the hart was single-stepped,
  or the same write released a reset and so changed whether the hart was halted.
* `check_eq_nil_iff` — one access from a reachable state; `checker_silent_iff` — whole runs.

`Hartless` covers the configurations that declare no hart, for which the model still keeps one.
-/

set_option autoImplicit false

namespace RiscvDbg

/-! ## Accesses -/

namespace Dmi

/-- The operation as the checker is told of it, with the model's own read-back. -/
def op (s : DMPredictor) : Dmi → DmiOp
  | .write _ value => .write (some value)
  | .read addr => .read (some (s.predict addr))

/-- What the checker reports for the access. -/
def check (s : DMPredictor) (d : Dmi) : List Violation :=
  checkAll (some s.snapshot) (d.op s) d.addr (d.apply s)

/-- Legal stimulus: at most one action bit in a `dmcontrol` write, and only `dmcontrol` and
`dmstatus` while `ndmreset` is asserted. -/
def Legal (s : DMPredictor) (d : Dmi) : Prop :=
  (s.rc.ndmreset = true → d.addr = DMCONTROL.address ∨ d.addr = DMSTATUS.address) ∧
    match d with
    | .write addr value => addr = DMCONTROL.address → (assertedMutexBits value).length ≤ 1
    | .read _ => True

instance (s : DMPredictor) : (d : Dmi) → Decidable (d.Legal s)
  | .write _ _ => inferInstanceAs (Decidable ((_ → _ ∨ _) ∧ (_ → _ ≤ 1)))
  | .read _ => inferInstanceAs (Decidable ((_ → _ ∨ _) ∧ True))

end Dmi

/-! ## Reports as equations -/

@[simp] theorem reportIf_eq_nil {b : Bool} {v : Violation} : reportIf b v = [] ↔ b = false := by
  cases b <;> simp [reportIf]

theorem snapshotHart_snapshot (s : DMPredictor) (i : Nat) :
    snapshotHart (some s.snapshot) i = (s.rc.harts[i]?).map (·.snapshot) := by
  simp [snapshotHart, DMPredictor.snapshot]

theorem flatMap_harts_eq_nil (s : DMPredictor) (f : HartSnapshot × Nat → List Violation) :
    s.snapshot.harts.zipIdx.flatMap f = [] ↔
      ∀ i h, s.rc.harts[i]? = some h → f (h.snapshot, i) = [] := by
  rw [List.flatMap_eq_nil_iff]
  constructor
  · intro hf i h hh
    exact hf _ (List.mem_zipIdx_iff_getElem?.mpr (by simp [DMPredictor.snapshot, hh]))
  · rintro hf ⟨now, i⟩ hm
    have hget := List.mem_zipIdx_iff_getElem?.mp hm
    simp only [DMPredictor.snapshot, List.getElem?_map, Option.map_eq_some_iff] at hget
    obtain ⟨h, hh, rfl⟩ := hget
    exact hf i h hh

theorem forSelectedHarts_eq_nil (s post : DMPredictor)
    (rule : Nat → HartSnapshot → HartSnapshot → List Violation) :
    forSelectedHarts (some s.snapshot) post rule = [] ↔
      ∀ was now, s.rc.harts[post.rc.hartsel]? = some was →
        post.rc.harts[post.rc.hartsel]? = some now → was.nonexistent = false →
        was.unavail = false → rule post.rc.hartsel was.snapshot now.snapshot = [] := by
  unfold forSelectedHarts RunControl.selectedIndices
  rw [List.flatMap_cons, List.flatMap_nil, List.append_nil, snapshotHart_snapshot,
    snapshotHart_snapshot]
  cases hw : s.rc.harts[post.rc.hartsel]? with
  | none => simp
  | some was =>
    cases hn : post.rc.harts[post.rc.hartsel]? with
    | none => simp
    | some now =>
      simp only [Option.map_some, Option.some.injEq, HartState.snapshot]
      cases hx : was.nonexistent <;> cases hu : was.unavail <;> simp [hx, hu]

/-! ## Rules about one state -/

namespace DMPredictor

variable {s : DMPredictor}

theorem extract_version (s : DMPredictor) :
    DMSTATUS.version.extract s.expectDmstatus = s.params.version % 2 ^ 4 :=
  extract_expectDmstatus (by simp [dmstatusValues])

/-- The predicted word breaks no rule but that of a version that reads as 0. -/
theorem checkDmstatusWord_eq_nil (s : DMPredictor) (source : String) :
    checkDmstatusWord s.expectDmstatus s source = [] ↔
      (s.rc.dmactive = true → s.rc.ndmreset = false → s.params.version % 2 ^ 4 ≠ 0) := by
  have hpairs : DMSTATUS_ALL_ANY_PAIRS.flatMap (allImpliesAny s.expectDmstatus source) = [] := by
    rw [List.flatMap_eq_nil_iff]
    intro q hq
    rw [allImpliesAny, reportIf_eq_nil, s.all_eq_any hq, Bool.and_not_self]
  have hpending : ((decide (DMSTATUS_VERSION_1_0 ≤ s.params.version) && s.rc.ndmreset)
      && !DMSTATUS.ndmresetpending.test s.expectDmstatus) = false := by
    by_cases hv : DMSTATUS_VERSION_1_0 ≤ s.params.version
    · have htest : DMSTATUS.ndmresetpending.test s.expectDmstatus = s.rc.ndmreset :=
        test_expectDmstatus rfl (by simp [dmstatusValues, hv])
      rw [htest, Bool.and_assoc, Bool.and_not_self, Bool.and_false]
    · simp [hv]
  unfold checkDmstatusWord
  rw [List.append_eq_nil_iff, List.append_eq_nil_iff, reportIf_eq_nil, reportIf_eq_nil,
    extract_version, hpairs, ite_self]
  simp only [hpending, true_and, and_true]
  cases s.rc.dmactive <;> cases s.rc.ndmreset <;> simp [DMSTATUS_VERSION_NONE]

/-- A field of `dmcontrol` that the prediction never encodes reads 0. -/
theorem extract_expectDmcontrol {f : Field} (s : DMPredictor)
    (hd : ∀ g ∈ [DMCONTROL.dmactive, DMCONTROL.ndmreset, DMCONTROL.hasel, DMCONTROL.hartreset,
      DMCONTROL.hartsello, DMCONTROL.hartselhi], f.Disjoint g) :
    f.extract s.expectDmcontrol = 0 := by
  have h₁ := hd DMCONTROL.hartselhi (by simp)
  have h₂ := hd DMCONTROL.hartsello (by simp)
  unfold expectDmcontrol withHartsel Register.encode
  rw [Field.extract_insert_of_disjoint h₁, Field.extract_insert_of_disjoint h₂,
    Register.extract_foldl_of_disjoint]
  · simp [Field.extract, Words.extract]
  · intro g hg
    exact hd g (by simp at hg ⊢; tauto)

theorem invDmcontrolReadsZero_eq_nil (s : DMPredictor) :
    invDmcontrolReadsZero s.expectDmcontrol = [] := by
  have hdisj : ∀ f ∈ DMCONTROL.fields, f.readsZero = true →
      ∀ g ∈ [DMCONTROL.dmactive, DMCONTROL.ndmreset, DMCONTROL.hasel, DMCONTROL.hartreset,
        DMCONTROL.hartsello, DMCONTROL.hartselhi], f.Disjoint g := by
    decide
  unfold invDmcontrolReadsZero
  rw [List.flatMap_eq_nil_iff]
  intro f hf
  rw [reportIf_eq_nil]
  cases hz : f.readsZero with
  | false => rfl
  | true => rw [Field.test, s.extract_expectDmcontrol (hdisj f hf hz)]; rfl

end DMPredictor

/-! ## Configurations that declare no hart -/

namespace HartState

variable {h : HartState} {w : HartWrite}

/-- The hart the model keeps at index 0 when none is declared. -/
structure Placeholder (h : HartState) : Prop where
  available : h.available = true
  notSticky : h.unavailSticky = false
  notHalted : h.halted = false

theorem releaseFromReset_of_nonexistent (hx : h.nonexistent = true) : h.releaseFromReset = h := by
  rw [HartState.releaseFromReset, if_pos hx]

theorem respondHalt_of_nonexistent (hx : h.nonexistent = true) : h.respondHalt = h := by
  rw [HartState.respondHalt, if_pos (by simp [hx])]

theorem respondResume_of_nonexistent (hx : h.nonexistent = true) (b : Bool) :
    h.respondResume b = h := by
  rw [HartState.respondResume, if_pos (by simp [hx])]

theorem Placeholder.beforeSelected (hp : h.Placeholder) (hx : w.nonexistent = true) :
    (h.beforeSelected w).Placeholder := by
  obtain ⟨ha, hu, hh⟩ := hp
  unfold HartState.beforeSelected HartState.ndmEdge
  split
  · exact ⟨ha, hu, rfl⟩
  · split
    · rw [releaseFromReset_of_nonexistent hx]; exact ⟨ha, hu, hh⟩
    · exact ⟨ha, hu, hh⟩

theorem Placeholder.levelEdge (hp : h.Placeholder) (hx : h.nonexistent = true) :
    (h.levelEdge w).Placeholder := by
  obtain ⟨ha, hu, hh⟩ := hp
  unfold HartState.levelEdge
  split
  · exact ⟨ha, hu, rfl⟩
  · split
    · rw [releaseFromReset_of_nonexistent (h := { h with hartReset := false }) hx]
      exact ⟨ha, hu, hh⟩
    · exact ⟨ha, hu, hh⟩

theorem Placeholder.requestResethalt (hp : h.Placeholder) : (h.requestResethalt w).Placeholder := by
  unfold HartState.requestResethalt
  repeat' split
  all_goals exact ⟨hp.available, hp.notSticky, hp.notHalted⟩

theorem Placeholder.acknowledge (hp : h.Placeholder) : (h.acknowledge w).Placeholder := by
  unfold HartState.acknowledge
  dsimp only
  repeat' split
  all_goals first
    | exact ⟨hp.available, hp.notSticky, hp.notHalted⟩
    | exact ⟨hp.available, rfl, hp.notHalted⟩

theorem Placeholder.requestHalt (hp : h.Placeholder) (hx : h.nonexistent = true) :
    (h.requestHalt w).Placeholder := by
  unfold HartState.requestHalt
  dsimp only
  split
  · rw [respondHalt_of_nonexistent (h := { h with haltRequest := w.haltreq }) hx]
    exact ⟨hp.available, hp.notSticky, hp.notHalted⟩
  · exact ⟨hp.available, hp.notSticky, hp.notHalted⟩

theorem Placeholder.settle (hp : h.Placeholder) (b : Bool) : (h.settle b).Placeholder := by
  unfold HartState.settle
  split
  · exact ⟨hp.available, hp.notSticky, rfl⟩
  · exact hp

theorem Placeholder.beforeResume (hp : h.Placeholder) (hx : w.nonexistent = true) :
    (h.beforeResume w).Placeholder :=
  (((hp.beforeSelected hx).levelEdge (by simp [hx])).requestResethalt.acknowledge).requestHalt
    (by simp [hx])

/-- A hart that does not exist never halts. -/
theorem Placeholder.afterWrite (hp : h.Placeholder) (hx : w.nonexistent = true) :
    (h.afterWrite w).Placeholder := by
  unfold HartState.afterWrite
  dsimp only
  repeat' split
  · rw [respondResume_of_nonexistent (by simp [hx])]; exact (hp.beforeResume hx).settle _
  · exact (hp.beforeResume hx).settle _
  · exact (hp.beforeSelected hx).settle _

end HartState

namespace DMPredictor

variable {s : DMPredictor}

/-- A model that declares no hart.  It keeps one, which the first active write marks as not
existing; until then both reset levels are low. -/
structure Hartless (s : DMPredictor) : Prop where
  none_declared : s.params.numHarts = 0
  one_kept : s.rc.harts.length = 1
  harts : ∀ h ∈ s.rc.harts, h.Placeholder ∧
    (h.nonexistent = true ∨ (s.rc.ndmreset = false ∧ s.rc.hartresetLevel = false))

theorem resetDm_hartless (hn : s.params.numHarts = 0) (powerOn : Bool)
    (hprev : powerOn = false → s.Hartless) : (s.resetDm powerOn).Hartless := by
  refine ⟨hn, ?_, ?_⟩
  · simp [resetDm, RunControl.resetDm, hn]
  · intro h hh
    refine ⟨?_, Or.inr ⟨rfl, rfl⟩⟩
    simp only [resetDm, RunControl.resetDm, List.mem_map] at hh
    obtain ⟨i, -, rfl⟩ := hh
    unfold RunControl.resetHart
    cases powerOn with
    | true => exact ⟨rfl, rfl, rfl⟩
    | false =>
      dsimp only
      rw [if_neg (by simp)]
      split
      · rename_i q hq
        exact ⟨rfl, rfl, ((hprev rfl).harts q (List.mem_of_getElem? hq)).1.notHalted⟩
      · exact ⟨rfl, rfl, rfl⟩

theorem onWrite_hartless (hs : s.Hartless) (addr value : Nat) : (s.onWrite addr value).Hartless := by
  by_cases ha : addr = DMCONTROL.address
  · rw [ha, onWrite_dmcontrol]
    cases hv : value.testBit 0 with
    | false => rw [writeDmcontrol_inactive s hv]; exact resetDm_hartless hs.none_declared _ fun _ => hs
    | true =>
      rw [writeDmcontrol_active s hv]
      refine ⟨hs.none_declared, by simp [RunControl.writeActive_fst, hs.one_kept], ?_⟩
      intro h hh
      obtain ⟨i, hi⟩ := List.mem_iff_getElem?.mp hh
      rw [RunControl.writeActive_harts] at hi
      obtain ⟨h₀, h₀mem, rfl⟩ := Option.map_eq_some_iff.mp hi
      have hx : (s.rc.hartWrite s.params s.ac value i).nonexistent = true := by
        simp [RunControl.hartWrite, hs.none_declared]
      exact ⟨(hs.harts _ (List.mem_of_getElem? h₀mem)).1.afterWrite hx, Or.inl (by simp [hx])⟩
  · have hrc := s.onWrite_rc_of_ne ha value
    obtain ⟨hp, -⟩ := s.onWrite_static addr value
    exact ⟨by rw [hp]; exact hs.none_declared, by rw [hrc]; exact hs.one_kept,
      by rw [hrc]; exact hs.harts⟩

/-- What holds of every reachable model, whether it declares harts or not. -/
def Sound (s : DMPredictor) : Prop := s.WellFormed ∨ s.Hartless

theorem Booted.sound (hs : s.Booted) : s.Sound := by
  rcases Nat.eq_zero_or_pos s.params.numHarts with hn | hn
  · right
    cases hs with
    | constructed p => exact resetDm_hartless hn true nofun
    | configured p c =>
      exact resetDm_hartless (s := { init p with cfg := c, cfgValid := true, params := c.params }) hn
        true nofun
  · exact Or.inl (hs.wellFormed hn)

theorem Sound.apply (hs : s.Sound) (d : Dmi) : (d.apply s).Sound := by
  cases d with
  | write addr value =>
    rcases hs with hs | hs
    · exact Or.inl (onWrite_wellFormed hs addr value)
    · exact Or.inr (onWrite_hartless hs addr value)
  | read addr =>
    have hrc := s.observeRead_rc addr
    obtain ⟨hp, -⟩ := s.observeRead_static addr
    rcases hs with hs | hs
    · exact Or.inl (hs.of_static (s.observeRead_static addr) hrc)
    · exact Or.inr ⟨by rw [Dmi.apply, hp]; exact hs.none_declared,
        by rw [Dmi.apply, hrc]; exact hs.one_kept, by rw [Dmi.apply, hrc]; exact hs.harts⟩

/-- No hart is ever halted and running at once. -/
theorem Sound.not_both (hs : s.Sound) {h : HartState} (hh : h ∈ s.rc.harts) :
    (h.halted && h.running) = false := by
  rcases hs with hs | hs
  · rw [(hs.harts h hh).1.signals, Bool.and_not_self]
  · rw [(hs.harts h hh).1.notHalted, Bool.false_and]

theorem Sound.invHaltedRunningMutex (hs : s.Sound) : invHaltedRunningMutex s = [] := by
  unfold RiscvDbg.invHaltedRunningMutex
  rw [flatMap_harts_eq_nil]
  intro i h hh
  rw [reportIf_eq_nil]
  exact hs.not_both (List.mem_of_getElem? hh)

/-! ## The alarm of the resume rule -/

/-- Whether the resume rule contradicts the model about hart `i`, given the hart before the write. -/
def alarmOn (s : DMPredictor) (i : Nat) (h : HartState) : Bool :=
  if h.halted then
    RunControl.stepArmed s.ac || (s.rc.hartresetLevel && !(h.resetHaltreq || h.haltRequest))
  else if i < s.params.numHarts then
    (s.rc.ndmreset || s.rc.hartresetLevel) && (h.resetHaltreq || h.haltRequest)
  else h.running && h.resumeAck

/-- Whether an active write of `value` to `dmcontrol` raises a false alarm: it asks for a resume
alone, leaves `ndmreset` deasserted, and selects a hart for which `alarmOn` holds. -/
def resumeAlarm (s : DMPredictor) (value : Nat) : Bool :=
  (value.testBit 30 && !value.testBit 31 && !value.testBit 1) &&
    (s.rc.harts[hartselOf value]?).any fun h => !h.nonexistent && s.alarmOn (hartselOf value) h

end DMPredictor

namespace HartState

variable {h : HartState} {w : HartWrite}

/-- The resume rule on a hart that exists. -/
theorem resumereqOnHart_eq_nil (i : Nat) (hw : h.WellFormed w.ndmWas) (hh : h.nonexistent = false)
    (hx : w.nonexistent = false) (hsel : w.selected = true) (hres : w.resumereq = true)
    (hhalt : w.haltreq = false) (hnow : w.ndmNow = false) (hlevel : w.levelNow = false) :
    resumereqOnHart i h.snapshot (h.afterWrite w).snapshot = [] ↔
      (if h.halted then w.stepArmed || (w.levelWas && !(h.resetHaltreq || h.haltRequest))
        else (w.ndmWas || w.levelWas) && (h.resetHaltreq || h.haltRequest)) = false := by
  obtain ⟨hout, hack⟩ := afterWrite_resume (hw.out hh) hx hnow hlevel hsel hres hhalt
  have hhalted := hout.halted
  have hrunning := hout.running
  simp only [requests] at hack hhalted hrunning
  unfold resumereqOnHart reportIf HartState.snapshot
  cases hb : h.halted with
  | true =>
    -- a halted hart is in neither reset, so only a release of the level can interfere
    obtain ⟨hndm, hreset⟩ := hw.not_reset_of_halted hb
    rw [hb, hndm, hreset] at hhalted hrunning
    rw [hb, hndm] at hack
    simp only [hhalted, hrunning, hack]
    cases w.stepArmed <;> cases w.levelWas <;> cases h.resetHaltreq <;> cases h.haltRequest <;> simp
  | false =>
    have hrun : h.running = true := by rw [hw.signals, hb]; rfl
    rw [hb] at hhalted hrunning hack
    simp only [hhalted, hrunning, hack, hrun]
    cases w.ndmWas <;> cases w.levelWas <;> cases h.resetHaltreq <;> cases h.haltRequest <;>
      simp

/-- The two run-state signals. -/
def signals (h : HartState) : Bool × Bool := (h.halted, h.running)

theorem requestResethalt_signals : (h.requestResethalt w).signals = h.signals := by
  unfold HartState.requestResethalt; repeat' split
  all_goals rfl

theorem acknowledge_signals : (h.acknowledge w).signals = h.signals := by
  unfold HartState.acknowledge; dsimp only; repeat' split
  all_goals rfl

/-- Without a reset edge or a halt request nothing before the resume request moves a signal. -/
theorem beforeResume_signals (hhalt : w.haltreq = false) (hwas : w.ndmWas = false)
    (hnow : w.ndmNow = false) (hlevelWas : w.levelWas = false) (hlevel : w.levelNow = false) :
    (h.beforeResume w).signals = h.signals := by
  have hsel : (h.beforeSelected w).signals = h.signals := by
    simp [HartState.beforeSelected, HartState.ndmEdge, hwas, hnow, signals]
  have hlev : (h.beforeSelected w).levelEdge w = h.beforeSelected w := by
    simp [HartState.levelEdge, hlevelWas, hlevel]
  have hreq : ∀ q : HartState, (q.requestHalt w).signals = q.signals := by
    intro q
    simp [HartState.requestHalt, hhalt, signals]
  rw [HartState.beforeResume, hreq, acknowledge_signals, requestResethalt_signals, hlev, hsel]

/-- The resume rule on the placeholder, on the first active write after a DM reset. -/
theorem resumereqOnHart_placeholder (i : Nat) (hp : h.Placeholder) (hx : w.nonexistent = true)
    (hsel : w.selected = true) (hres : w.resumereq = true) (hhalt : w.haltreq = false)
    (hwas : w.ndmWas = false) (hnow : w.ndmNow = false) (hlevelWas : w.levelWas = false)
    (hlevel : w.levelNow = false) :
    resumereqOnHart i h.snapshot (h.afterWrite w).snapshot = [] ↔
      (h.running && h.resumeAck) = false := by
  have hbr := beforeResume_signals (h := h) hhalt hwas hnow hlevelWas hlevel
  have hafter : h.afterWrite w = h.beforeResume w := by
    rw [afterWrite_of_resume hsel hres hhalt, respondResume_of_nonexistent (by simp [hx]), hnow,
      HartState.settle, if_neg (by simp [hx])]
  unfold resumereqOnHart reportIf HartState.snapshot
  simp only [signals, Prod.mk.injEq] at hbr
  rw [hafter, beforeResume_resumeAck hnow hlevel, hbr.1, hbr.2, hp.notHalted]
  cases h.running <;> cases h.resumeAck <;> simp

/-- No haltreq rule fires on a well-formed hart. -/
theorem halted_afterWrite_halt (hw : h.WellFormed w.ndmWas) (hh : h.nonexistent = false)
    (hx : w.nonexistent = false) (hsel : w.selected = true) (hhalt : w.haltreq = true)
    (hnow : w.ndmNow = false) (hlevel : w.levelNow = false) (hb : h.halted = true) :
    (h.afterWrite w).halted = true ∧ (h.afterWrite w).running = false ∧
      (h.afterWrite w).resumeAck = h.resumeAck := by
  obtain ⟨hout, hack⟩ := afterWrite_halt (hw.out hh) hx hnow hlevel hsel hhalt
  have hreset := (hw.not_reset_of_halted hb).2
  rw [hreset, Bool.and_false, Bool.not_false] at hout
  exact ⟨hout.halted, hout.running, hack⟩

end HartState

/-! ## The rules on an active write -/

namespace DMPredictor

section
variable {s : DMPredictor} {value : Nat} (hv : value.testBit 0 = true)

include hv

theorem active_harts (i : Nat) :
    (s.writeDmcontrol value).rc.harts[i]? =
      (s.rc.harts[i]?).map (HartState.afterWrite (s.rc.hartWrite s.params s.ac value i)) := by
  rw [writeDmcontrol_active s hv, RunControl.writeActive_harts]

theorem active_hartsel : (s.writeDmcontrol value).rc.hartsel = hartselOf value := by
  rw [writeDmcontrol_active s hv, RunControl.writeActive_fst]

theorem active_isResetWrite :
    isResetWrite value (s.writeDmcontrol value) = (value.testBit 1 || value.testBit 29) := by
  rw [isResetWrite, writeDmcontrol_active s hv, RunControl.writeActive_fst, DMCONTROL.test_ndmreset,
    DMCONTROL.test_hartreset]
  cases value.testBit 1 <;> cases value.testBit 29 <;> rfl

theorem active_invHaveresetSticky :
    invHaveresetSticky (some s.snapshot) (some value) (s.writeDmcontrol value) = [] := by
  have hactive : (some value).any (fun word => !DMCONTROL.dmactive.test word) = false := by
    rw [Option.any_some, DMCONTROL.test_dmactive, hv]; rfl
  unfold invHaveresetSticky
  rw [hactive, if_neg (by simp), List.append_eq_nil_iff]
  dsimp only
  constructor
  · rw [flatMap_harts_eq_nil]
    intro i now hnow
    rw [active_harts hv] at hnow
    obtain ⟨was, hwas, rfl⟩ := Option.map_eq_some_iff.mp hnow
    simp only [snapshotHart_snapshot, hwas, Option.map_some, reportIf_eq_nil]
    -- the hart either keeps the flag or is named by the acknowledgement
    cases hack : ((s.rc.hartWrite s.params s.ac value i).selected &&
        (s.rc.hartWrite s.params s.ac value i).ackhavereset) with
    | false =>
      cases hh : was.havereset with
      | false => simp [HartState.snapshot, hh]
      | true => simp [HartState.snapshot, HartState.afterWrite_havereset_sticky hh hack]
    | true =>
      simp only [RunControl.hartWrite, Bool.and_eq_true, beq_iff_eq] at hack
      simp [hack, RunControl.selectedIndices, active_hartsel hv]
  · rw [List.flatMap_eq_nil_iff]
    intro i hi
    by_cases hack : value.testBit 28 = true
    · simp only [Option.any_some, DMCONTROL.test_ackhavereset, hack, if_true,
        RunControl.selectedIndices, active_hartsel hv, List.mem_singleton] at hi
      subst hi
      rw [reportIf_eq_nil, snapshotHart_snapshot, active_harts hv]
      cases s.rc.harts[hartselOf value]? with
      | none => rfl
      | some h =>
        exact HartState.afterWrite_havereset_acked (by simp [RunControl.hartWrite]) hack
    · simp [hack] at hi

theorem active_invResethaltreqPerHart :
    invResethaltreqPerHart (some s.snapshot) value (s.writeDmcontrol value) = [] := by
  unfold invResethaltreqPerHart
  rw [if_neg (by simp [hv])]
  split
  · rfl
  · rw [flatMap_harts_eq_nil]
    intro i now hnow
    rw [active_harts hv] at hnow
    obtain ⟨was, hwas, rfl⟩ := Option.map_eq_some_iff.mp hnow
    simp only [snapshotHart_snapshot, hwas, Option.map_some, RunControl.selectedIndices,
      active_hartsel hv]
    split
    · rfl
    · rename_i hne
      have hsel : (s.rc.hartWrite s.params s.ac value i).selected = false := by
        simpa [RunControl.hartWrite] using hne
      have hreq := congrArg Prod.fst
        (HartState.afterWrite_requests (h := was) (s.rc.hartWrite s.params s.ac value i))
      rw [hsel, if_neg (by simp)] at hreq
      rw [reportIf_eq_nil, bne_eq_false_iff_eq]
      exact hreq

end

section
variable {s : DMPredictor} (hs : s.Sound) {value : Nat} (hv : value.testBit 0 = true)

include hs hv

/-- A hart that was out of reset before the write is not released by it. -/
theorem active_invResetRelease :
    invResetRelease (some s.snapshot) value (s.writeDmcontrol value) = [] := by
  unfold invResetRelease
  rw [if_neg (by simp [hv]), flatMap_harts_eq_nil]
  intro i now hnow
  rw [active_harts hv] at hnow
  obtain ⟨was, hwas, rfl⟩ := Option.map_eq_some_iff.mp hnow
  simp only [snapshotHart_snapshot, hwas, Option.map_some]
  rcases hs with hs | hs
  · have hsig := (hs.harts was (List.mem_of_getElem? hwas)).1.signals
    have hin : was.snapshot.inReset = false := by
      simp only [HartSnapshot.inReset, HartState.snapshot, hsig]
      cases was.halted <;> rfl
    simp [hin]
  · simp [HartState.snapshot, RunControl.hartWrite, hs.none_declared]

theorem active_haltreq_rules :
    invResumereqIgnoredWhenHaltreq (some s.snapshot) value (s.writeDmcontrol value) = [] ∧
      invHaltedIgnoresHaltreq (some s.snapshot) value (s.writeDmcontrol value) = [] := by
  unfold invResumereqIgnoredWhenHaltreq invHaltedIgnoresHaltreq
  rw [active_isResetWrite hv]
  by_cases hreset : (value.testBit 1 || value.testBit 29) = true
  · simp [hreset]
  by_cases hhalt : value.testBit 31 = true
  swap
  · simp [hhalt]
  simp only [Bool.or_eq_true, not_or, Bool.not_eq_true] at hreset
  -- both rules ask only about harts that were halted, and those stay halted
  have hkeep : ∀ was now, s.rc.harts[hartselOf value]? = some was →
      (s.writeDmcontrol value).rc.harts[hartselOf value]? = some now → was.halted = true →
      was.nonexistent = false →
      now.halted = true ∧ now.running = false ∧ now.resumeAck = was.resumeAck := by
    intro was now hwas hnow hb hx
    rw [active_harts hv, hwas, Option.map_some, Option.some.injEq] at hnow
    subst hnow
    rcases hs with hs | hs
    · have hlt := (List.getElem?_eq_some_iff.mp hwas).1
      rw [hs.length] at hlt
      refine HartState.halted_afterWrite_halt (hs.harts was (List.mem_of_getElem? hwas)).1 hx ?_ ?_
        hhalt hreset.1 ?_ hb
      · simp [RunControl.hartWrite, hlt]
      · simp [RunControl.hartWrite]
      · simp [RunControl.hartWrite, hreset.2]
    · rw [(hs.harts was (List.mem_of_getElem? hwas)).1.notHalted] at hb
      exact absurd hb (by simp)
  constructor
  · split
    · rfl
    · split
      · rfl
      · rw [forSelectedHarts_eq_nil, active_hartsel hv]
        intro was now hwas hnow hx hu
        rw [reportIf_eq_nil]
        cases hb : was.halted with
        | false => simp [HartState.snapshot, hb]
        | true => simp [HartState.snapshot, (hkeep was now hwas hnow hb hx).1]
  · split
    · rfl
    · split
      · rfl
      · rw [forSelectedHarts_eq_nil, active_hartsel hv]
        intro was now hwas hnow hx hu
        cases hb : was.halted with
        | false => simp [HartState.snapshot, hb]
        | true =>
          obtain ⟨h₁, h₂, h₃⟩ := hkeep was now hwas hnow hb hx
          simp [HartState.snapshot, h₁, h₂, h₃]

theorem active_invResumereq (hl : value.testBit 30 = true → value.testBit 29 = false) :
    invResumereq (some s.snapshot) value (s.writeDmcontrol value) = [] ↔
      s.resumeAlarm value = false := by
  unfold invResumereq resumeAlarm
  rw [active_isResetWrite hv]
  by_cases hres : value.testBit 30 = true
  swap
  · simp [hres]
  by_cases hhalt : value.testBit 31 = true
  · simp [hhalt]
  by_cases hndm : value.testBit 1 = true
  · simp [hndm]
  simp only [Bool.not_eq_true] at hhalt hndm
  rw [if_neg (by simp [hres, hv]), if_neg (by simp [hhalt]), if_neg (by simp [hndm, hl hres]),
    forSelectedHarts_eq_nil, active_hartsel hv, active_harts hv]
  cases hget : s.rc.harts[hartselOf value]? with
  | none => simp
  | some h =>
    have hmem := List.mem_of_getElem? hget
    have hun : h.unavail = false := by
      rcases hs with hs | hs
      · exact (hs.harts h hmem).1.settling.unavail
      · simp [HartState.unavail, (hs.harts h hmem).1.available, (hs.harts h hmem).1.notSticky]
    have hone : (∀ was now, some h = some was →
        (some h).map (HartState.afterWrite (s.rc.hartWrite s.params s.ac value (hartselOf value))) =
          some now → was.nonexistent = false → was.unavail = false →
          resumereqOnHart (hartselOf value) was.snapshot now.snapshot = []) ↔
        (h.nonexistent = false → resumereqOnHart (hartselOf value) h.snapshot
          (h.afterWrite (s.rc.hartWrite s.params s.ac value (hartselOf value))).snapshot = []) := by
      constructor
      · intro hall hx
        exact hall h _ rfl rfl hx hun
      · rintro hall was now ⟨rfl⟩ ⟨rfl⟩ hx -
        exact hall hx
    rw [hone]
    simp only [hres, hhalt, hndm, Bool.not_false, Bool.and_self, Bool.true_and, Option.any_some]
    cases hx : h.nonexistent with
    | true => simp
    | false =>
      have hsel : (s.rc.hartWrite s.params s.ac value (hartselOf value)).selected = true := by
        simp [RunControl.hartWrite]
      have hlevel : (s.rc.hartWrite s.params s.ac value (hartselOf value)).levelNow = false := by
        simp [RunControl.hartWrite, hl hres]
      simp only [forall_const, Bool.not_false, Bool.true_and, alarmOn]
      rcases hs with hs | hs
      · have hlt := (List.getElem?_eq_some_iff.mp hget).1
        rw [hs.length] at hlt
        rw [HartState.resumereqOnHart_eq_nil _ (hs.harts h hmem).1 hx
          (by simp [RunControl.hartWrite, hlt]) hsel hres hhalt hndm hlevel, if_pos hlt]
        rfl
      · obtain ⟨hp, hlow⟩ := hs.harts h hmem
        obtain ⟨hnw, hlw⟩ := hlow.resolve_left (by simp [hx])
        rw [HartState.resumereqOnHart_placeholder _ hp
          (by simp [RunControl.hartWrite, hs.none_declared]) hsel hres hhalt hnw hndm hlw hlevel,
          hp.notHalted, if_neg (by simp), if_neg (by simp [hs.none_declared])]

end

/-! ## The other accesses -/

/-- An access that is not a `dmcontrol` write clears no `havereset`. -/
theorem invHaveresetSticky_of_rc_eq {s post : DMPredictor} (hrc : post.rc = s.rc) :
    invHaveresetSticky (some s.snapshot) none post = [] := by
  unfold invHaveresetSticky
  simp only [Option.any_none, Bool.false_eq_true, if_false, List.flatMap_nil, List.append_nil]
  rw [flatMap_harts_eq_nil]
  intro i h hh
  rw [hrc] at hh
  simp [snapshotHart_snapshot, hh, HartState.snapshot]

/-- A DM reset leaves `dmcontrol` and the request bits at their reset values. -/
theorem reset_invDmResetState (s : DMPredictor) (value : Nat) :
    invDmResetState value (s.resetDm false) = [] := by
  have hword : (s.resetDm false).expectDmcontrol = 0 := by
    simp [expectDmcontrol, resetDm, RunControl.resetDm]
    decide
  have hfields : ∀ f ∈ DMCONTROL.fields, ∀ r, f.reset = some r → f.extract 0 = r := by decide
  unfold invDmResetState
  split
  · rfl
  rw [List.append_eq_nil_iff, predict_dmcontrol, hword]
  constructor
  · rw [List.flatMap_eq_nil_iff]
    intro f hf
    split
    · rfl
    · rename_i r hr
      split
      · rfl
      · rw [reportIf_eq_nil, hfields f hf r hr]; simp
  · rw [flatMap_harts_eq_nil]
    intro i h hh
    have hreq := resetDm_requests (List.mem_of_getElem? hh)
    simp only [HartState.requests, Prod.mk.injEq] at hreq
    simp [HartState.snapshot, hreq]

end DMPredictor

/-! ## One access -/

theorem mutex_resumereq {value : Nat} (h : (assertedMutexBits value).length ≤ 1)
    (hres : value.testBit 30 = true) : value.testBit 29 = false := by
  cases hr : value.testBit 29 with
  | false => rfl
  | true =>
    simp [assertedMutexBits, DMCONTROL_MUTEX_BITS, List.filter_cons, hres, hr] at h

namespace Dmi

/-- Whether the access leaves the DM active and out of `ndmreset`. -/
def leavesAccessible (s : DMPredictor) : Dmi → Bool
  | .write addr value =>
    if addr = DMCONTROL.address then value.testBit 0 && !value.testBit 1
    else s.rc.dmactive && !s.rc.ndmreset
  | .read _ => s.rc.dmactive && !s.rc.ndmreset

/-- Whether the access is an active `dmcontrol` write with `resumeAlarm`. -/
def resumes (s : DMPredictor) : Dmi → Bool
  | .write addr value => addr == DMCONTROL.address && value.testBit 0 && s.resumeAlarm value
  | .read _ => false

/-- Exactly when the checker contradicts the model. -/
def falseAlarm (s : DMPredictor) (d : Dmi) : Bool :=
  (s.params.version % 2 ^ 4 == 0 && d.leavesAccessible s) || d.resumes s

variable {s : DMPredictor}

theorem invDmiAccess_of_legal {addr : Nat} {post : DMPredictor} (hn : post.rc.ndmreset = s.rc.ndmreset)
    (hl : s.rc.ndmreset = true → addr = DMCONTROL.address ∨ addr = DMSTATUS.address) :
    invDmiAccessDuringNdmreset addr post = [] := by
  rw [invDmiAccessDuringNdmreset, reportIf_eq_nil, hn]
  cases hb : s.rc.ndmreset with
  | false => rfl
  | true => rcases hl hb with h | h <;> simp [h]

/-- A `dmcontrol` write is checked by the rules about one state and by all the transition rules. -/
theorem checkAll_dmcontrol_eq_nil (prev : Option Snapshot) (value : Nat) (post : DMPredictor) :
    checkAll prev (.write (some value)) DMCONTROL.address post = [] ↔
      invHaltedRunningMutex post = [] ∧
      checkDmstatusWord post.expectDmstatus post "predicted" = [] ∧
      invHaveresetSticky prev (some value) post = [] ∧
      invMutexBits value = [] ∧
      invDmResetState value post = [] ∧
      (invResumereqIgnoredWhenHaltreq prev value post = [] ∧
        invHaltedIgnoresHaltreq prev value post = []) ∧
      invResumereq prev value post = [] ∧
      invResetRelease prev value post = [] ∧
      invResethaltreqPerHart prev value post = [] := by
  have haccess : invDmiAccessDuringNdmreset DMCONTROL.address post = [] := by
    simp [invDmiAccessDuringNdmreset]
  simp only [checkAll, if_pos, DMPredictor.predict_dmstatus, haccess, List.append_eq_nil_iff,
    List.append_nil, List.nil_append, and_assoc]

theorem checkAll_write_other_eq_nil {addr : Nat} (ha : addr ≠ DMCONTROL.address)
    (prev : Option Snapshot) (data : Option Nat) (post : DMPredictor) :
    checkAll prev (.write data) addr post = [] ↔
      invDmiAccessDuringNdmreset addr post = [] ∧
      invHaltedRunningMutex post = [] ∧
      checkDmstatusWord post.expectDmstatus post "predicted" = [] ∧
      invHaveresetSticky prev none post = [] := by
  simp only [checkAll, if_neg ha, DMPredictor.predict_dmstatus, List.append_eq_nil_iff,
    List.append_nil, and_assoc]

theorem checkAll_read_eq_nil (addr : Nat) (prev : Option Snapshot) (word : Nat)
    (post : DMPredictor) :
    checkAll prev (.read (some word)) addr post = [] ↔
      invDmiAccessDuringNdmreset addr post = [] ∧
      invHaltedRunningMutex post = [] ∧
      (if addr = DMSTATUS.address then checkDmstatusWord word post "dmstatus read-back"
        else checkDmstatusWord post.expectDmstatus post "predicted") = [] ∧
      (addr = DMCONTROL.address → invDmcontrolReadsZero word = []) ∧
      invHaveresetSticky prev none post = [] := by
  simp only [checkAll, DMPredictor.predict_dmstatus, List.append_eq_nil_iff, List.append_nil, and_assoc]
  by_cases hs : addr = DMSTATUS.address
  · have hc : addr ≠ DMCONTROL.address := by rw [hs]; decide
    simp only [if_pos hs, if_neg hc]
    simp [hc]
  · by_cases hc : addr = DMCONTROL.address
    · simp only [if_neg hs, if_pos hc]
      simp [hc]
    · simp only [if_neg hs, if_neg hc]
      simp [hc]

theorem check_dmcontrol (hs : s.Sound) {value : Nat}
    (hl : (assertedMutexBits value).length ≤ 1) :
    check s (.write DMCONTROL.address value) = [] ↔
      falseAlarm s (.write DMCONTROL.address value) = false := by
  have hpost : apply s (.write DMCONTROL.address value) = s.writeDmcontrol value :=
    s.onWrite_dmcontrol value
  have hsound := hs.apply (.write DMCONTROL.address value)
  have hmutex : invMutexBits value = [] := by
    rw [invMutexBits, reportIf_eq_nil]; simp; omega
  rw [hpost] at hsound
  rw [check, hpost]
  simp only [op, addr]
  rw [checkAll_dmcontrol_eq_nil, DMPredictor.checkDmstatusWord_eq_nil]
  simp only [hsound.invHaltedRunningMutex, hmutex, true_and]
  simp only [falseAlarm, leavesAccessible, if_pos, resumes, beq_self_eq_true, Bool.true_and]
  cases hv : value.testBit 0 with
  | false =>
    have hinactive : DMCONTROL.dmactive.test value = false := by rw [DMCONTROL.test_dmactive, hv]
    rw [DMPredictor.writeDmcontrol_inactive s hv, DMPredictor.reset_invDmResetState]
    simp only [DMPredictor.resetDm, RunControl.resetDm, invHaveresetSticky,
      invResumereqIgnoredWhenHaltreq, invHaltedIgnoresHaltreq, invResumereq, invResetRelease,
      invResethaltreqPerHart, Option.any_some, hinactive, Bool.not_false, Bool.true_or, Bool.or_true,
      if_true, ite_self, and_true, Bool.false_and, Bool.and_false, Bool.or_false, Bool.false_eq_true,
      false_implies]
  | true =>
    have hreset : invDmResetState value (s.writeDmcontrol value) = [] := by
      rw [invDmResetState, DMCONTROL.test_dmactive, hv, if_pos rfl]
    rw [DMPredictor.active_invHaveresetSticky hv, DMPredictor.active_invResetRelease hs hv,
      DMPredictor.active_invResethaltreqPerHart hv,
      DMPredictor.active_invResumereq hs hv (mutex_resumereq hl), hreset,
      (DMPredictor.active_haltreq_rules hs hv).1, (DMPredictor.active_haltreq_rules hs hv).2,
      DMPredictor.writeDmcontrol_active s hv, RunControl.writeActive_fst]
    cases value.testBit 1 <;> cases s.resumeAlarm value <;> simp

/-- **One access from a reachable state.** -/
theorem check_eq_nil_iff (hs : s.Sound) {d : Dmi} (hl : d.Legal s) :
    d.check s = [] ↔ d.falseAlarm s = false := by
  have hsound := hs.apply d
  cases d with
  | write addr value =>
    by_cases ha : addr = DMCONTROL.address
    · subst ha
      exact check_dmcontrol hs (hl.2 rfl)
    · have hrc : (s.onWrite addr value).rc = s.rc := s.onWrite_rc_of_ne ha value
      have hp : (s.onWrite addr value).params = s.params := (s.onWrite_static addr value).1
      have haccess : invDmiAccessDuringNdmreset addr (s.onWrite addr value) = [] :=
        invDmiAccess_of_legal (congrArg RunControl.ndmreset hrc) hl.1
      show checkAll (some s.snapshot) (.write (some value)) addr (s.onWrite addr value) = [] ↔ _
      rw [checkAll_write_other_eq_nil ha, DMPredictor.checkDmstatusWord_eq_nil, hrc, hp]
      simp only [haccess, show invHaltedRunningMutex (s.onWrite addr value) = [] from
        hsound.invHaltedRunningMutex, DMPredictor.invHaveresetSticky_of_rc_eq hrc, true_and, and_true,
        falseAlarm, leavesAccessible, if_neg ha, resumes]
      cases s.rc.dmactive <;> cases s.rc.ndmreset <;> simp [ha]
  | read addr =>
    have hrc : (s.observeRead addr).rc = s.rc := s.observeRead_rc addr
    have hp : (s.observeRead addr).params = s.params := (s.observeRead_static addr).1
    have haccess : invDmiAccessDuringNdmreset addr (s.observeRead addr) = [] :=
      invDmiAccess_of_legal (congrArg RunControl.ndmreset hrc) hl.1
    have hzero : addr = DMCONTROL.address → invDmcontrolReadsZero (s.predict addr) = [] := by
      rintro rfl
      rw [DMPredictor.predict_dmcontrol]
      exact s.invDmcontrolReadsZero_eq_nil
    have hstatus : (if addr = DMSTATUS.address
          then checkDmstatusWord (s.predict addr) (s.observeRead addr) "dmstatus read-back"
          else checkDmstatusWord (s.observeRead addr).expectDmstatus (s.observeRead addr)
            "predicted") = [] ↔
        (s.rc.dmactive = true → s.rc.ndmreset = false → s.params.version % 2 ^ 4 ≠ 0) := by
      split
      · rename_i ha
        rw [ha, DMPredictor.predict_dmstatus, ← ha, ← DMPredictor.expectDmstatus_congr hrc hp,
          DMPredictor.checkDmstatusWord_eq_nil, hrc, hp]
      · rw [DMPredictor.checkDmstatusWord_eq_nil, hrc, hp]
    show checkAll (some s.snapshot) (.read (some (s.predict addr))) addr (s.observeRead addr) = [] ↔ _
    rw [checkAll_read_eq_nil, hstatus]
    simp only [haccess, show invHaltedRunningMutex (s.observeRead addr) = [] from
      hsound.invHaltedRunningMutex, DMPredictor.invHaveresetSticky_of_rc_eq hrc, eq_true hzero,
      true_and, and_true, falseAlarm, leavesAccessible, resumes]
    cases s.rc.dmactive <;> cases s.rc.ndmreset <;> simp

end Dmi

/-! ## Whole runs -/

/-- **The checker is silent on the model exactly on the runs without a false alarm.**  From a
constructed or configured model, over legal accesses: no access of the run is reported if and only
if no access resumes a single-stepped hart, or a hart whose reset the same write releases, and the
declared version is visible whenever the DM is accessible. -/
theorem checker_silent_iff {s : DMPredictor} (hs : s.Booted) (ds : List Dmi)
    (hl : Runs.Always Dmi.apply (fun s d => d.Legal s) s ds) :
    Runs.Always Dmi.apply (fun s d => d.check s = []) s ds ↔
      Runs.Always Dmi.apply (fun s d => d.falseAlarm s = false) s ds :=
  Runs.always_iff (P := DMPredictor.Sound) (fun _ d hs _ _ => hs.apply d)
    (fun _ _ hs hl => Dmi.check_eq_nil_iff hs hl) ds s hs.sound hl

/-- A run with a halt and a resume that raises no alarm. -/
theorem checker_silent_halt_resume :
    let s := (DMPredictor.init {}).setConfig { version := 2, hasresethaltreq := true }
    let ds := [Dmi.write 0x10 0x80000001, .read 0x11, .write 0x10 0x40000001, .read 0x11]
    Runs.Always Dmi.apply (fun s d => d.check s = []) s ds :=
  (checker_silent_iff (.configured {} { version := 2, hasresethaltreq := true })
    [Dmi.write 0x10 0x80000001, .read 0x11, .write 0x10 0x40000001, .read 0x11] (by decide)).mpr
    (by decide)

/-- The checker does contradict the model: a hart halted, given `dcsr.step = 1` through an abstract
command, and resumed, re-halts in the model. -/
theorem checker_not_silent_on_single_step :
    ¬ ∀ c : DeclaredConfig, c.version ≠ 0 → ∀ ds : List Dmi,
      Runs.Always Dmi.apply (fun s d => d.Legal s) (DMPredictor.declared c) ds →
      Runs.Always Dmi.apply (fun s d => d.check s = []) (DMPredictor.declared c) ds := by
  intro h
  have := h { version := 2, datacount := 2 } (by decide)
    [.write 0x10 0x80000001, .write 0x04 4, .write 0x17 0x002307B0, .write 0x10 0x40000001] (by decide)
  revert this
  decide

end RiscvDbg
